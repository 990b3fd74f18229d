import Lending.Policy.Resolver
import Lending.Proofs.Policy.Cache
import Lending.Proofs.Rules.Acceptance
import Lending.Proofs.Rules.Existence

/-! # Pages of loans

The loans of a page share what a resolver keeps. As everything it keeps is what its sources give,
each loan gets the policies that it gets alone, wherever it stands on the page.
-/

namespace Lending

section Names

/-- Every policy that the rules choose is named by a text. -/
def NamesByText (applyRules : PolicyKind → MatchCriteria → Reply AppliedRule) : Prop :=
  ∀ kind request applied, (applyRules kind request).answer = .ok applied →
    ∃ t : Text, applied.policyId = .str t

namespace RulesText

theorem exists_str_of_pairs {ws : List (List CodePoint)} {a : Assignments} (h : Pairs ws a) :
    ∀ p ∈ a, ∃ id : Text, p.2 = .str id := by
  induction h with
  | nil => simp
  | cons _ _ ih => exact List.forall_mem_cons.mpr ⟨⟨_, rfl⟩, ih⟩

theorem exists_str_of_names {text : Text} {t : RuleTable} {kind : PolicyKind} {id : Json}
    (h : read text = .ok t) (hn : t.Names kind id) : ∃ name : Text, id = .str name := by
  obtain ⟨d, ⟨-, -, ⟨fs, hfs, hf⟩, ⟨rs, hrs, hr⟩⟩, ht⟩ := read_eq_ok_iff.mp h
  obtain rfl : rs = d.rules := hr
  obtain rfl : fs = [d.fallback] := hf
  obtain ⟨r, hm, hp⟩ := hn
  rw [Declaration.fallback_eq ht, List.mem_append, (Declaration.rules_perm ht).mem_iff] at hm
  obtain ⟨part, ha⟩ : ∃ part, Assigns part r.policies := by
    obtain hm | hm := hm
    · obtain ⟨l, cs, a, ⟨_, after, -, -, -, ha, -⟩, rfl⟩ := exists_forall₂_iff.mp ⟨_, hrs.flip⟩ r hm
      exact ⟨after, ha⟩
    · obtain ⟨l, body, a, -, ha, rfl⟩ := exists_forall₂_iff.mp ⟨_, hfs.flip⟩ r hm
      exact ⟨body, ha⟩
  exact exists_str_of_pairs ha.1 _ hp

theorem namesAll_of_read {text : Text} {t : RuleTable} (h : read text = .ok t) :
    t.fallback.NamesAll := by
  obtain ⟨d, -, ht⟩ := read_eq_ok_iff.mp h
  obtain ⟨hf, rfl⟩ := Declaration.table_eq_ok_iff.mp ht
  exact hf

theorem namesByText_of_read {text : Text} {t : RuleTable} (h : read text = .ok t) :
    NamesByText fun kind request => .ofResult (t.applyTo kind request) := by
  intro kind request applied ha
  have hf := namesAll_of_read h
  have hn := RuleTable.names_policyId_apply hf kind request
  have ha : t.applyTo kind request = .ok applied := ha
  unfold RuleTable.applyTo at ha
  split at ha
  · cases ha
  · obtain rfl := Except.ok.inj ha
    exact exists_str_of_names h hn

end RulesText

end Names

namespace PolicySource

variable {P : Type} {s : PolicySource P} {found : Found P} {id : Json} {item : Item}
  {patron : Patron}

theorem Keeps.lookupById (hk : s.Keeps found) : s.Keeps (s.lookupById id found).2 :=
  hk.call (c := .byId id)

theorem Keeps.lookup (hk : s.Keeps found) : s.Keeps (s.lookup item patron found).2 :=
  hk.call (c := .forItem item patron)

theorem Keeps.answer_lookup (ht : NamesByText s.applyRules) (hk : s.Keeps found) :
    (s.lookup item patron found).1.answer = (s.lookup item patron []).1.answer := by
  refine hk.answer_call (c := .forItem item patron) fun id h => ?_
  simp only [idOf, appliedRule, Reply.answer_bind, bind_eq_ok_iff] at h
  obtain ⟨applied, ⟨request, -, ha⟩, h⟩ := h
  obtain rfl := Except.ok.inj h
  exact ht s.kind request applied ha

end PolicySource

namespace Sources

/-- Everything that was found, of whatever kind, is what the sources give. -/
structure Keeps (s : Sources) (shelf : Shelf) : Prop where
  loan : s.loan.Keeps shelf.loan
  request : s.request.Keeps shelf.request
  notice : s.notice.Keeps shelf.notice
  overdueFine : s.overdueFine.Keeps shelf.overdueFine
  lostItemFee : s.lostItemFee.Keeps shelf.lostItemFee

variable {s : Sources} {shelf : Shelf} {kind : PolicyKind} {item : Item} {patron : Patron}

theorem keeps_empty (s : Sources) : s.Keeps {} where
  loan := PolicySource.keeps_nil
  request := PolicySource.keeps_nil
  notice := PolicySource.keeps_nil
  overdueFine := PolicySource.keeps_nil
  lostItemFee := PolicySource.keeps_nil

section Lookup

variable (hk : s.Keeps shelf)
include hk

theorem Keeps.lookupLoan : s.Keeps (s.lookupLoan item patron shelf).2 :=
  { hk with loan := hk.loan.lookup }

theorem Keeps.lookupOverdueFine : s.Keeps (s.lookupOverdueFine item patron shelf).2 :=
  { hk with overdueFine := hk.overdueFine.lookup }

theorem Keeps.lookupById (kind : PolicyKind) (id : Json) :
    s.Keeps (s.lookupById kind id shelf).2 := by
  cases kind <;> rw [Sources.lookupById, Session.map_snd]
  case loan => exact { hk with loan := hk.loan.lookupById }
  case request => exact { hk with request := hk.request.lookupById }
  case notice => exact { hk with notice := hk.notice.lookupById }
  case overdueFine => exact { hk with overdueFine := hk.overdueFine.lookupById }
  case lostItemFee => exact { hk with lostItemFee := hk.lostItemFee.lookupById }

theorem Keeps.lookup : s.Keeps (s.lookup kind item patron shelf).2 := by
  cases kind <;> rw [Sources.lookup, Session.map_snd]
  case loan => exact hk.lookupLoan
  case request => exact { hk with request := hk.request.lookup }
  case notice => exact { hk with notice := hk.notice.lookup }
  case overdueFine => exact hk.lookupOverdueFine
  case lostItemFee => exact { hk with lostItemFee := hk.lostItemFee.lookup }

variable (ht : NamesByText s.applyRules)
include ht

theorem Keeps.answer_lookupLoan :
    (s.lookupLoan item patron shelf).1.answer = (s.lookupLoan item patron {}).1.answer :=
  hk.loan.answer_lookup ht

theorem Keeps.answer_lookupOverdueFine :
    (s.lookupOverdueFine item patron shelf).1.answer =
      (s.lookupOverdueFine item patron {}).1.answer :=
  hk.overdueFine.answer_lookup ht

theorem Keeps.answer_lookup :
    (s.lookup kind item patron shelf).1.answer = (s.lookup kind item patron {}).1.answer := by
  cases kind <;> rw [Sources.lookup, Session.answer_map, Session.answer_map]
  case loan => rw [hk.answer_lookupLoan ht]
  case request => exact congrArg _ (hk.request.answer_lookup ht)
  case notice => exact congrArg _ (hk.notice.answer_lookup ht)
  case overdueFine => rw [hk.answer_lookupOverdueFine ht]
  case lostItemFee => exact congrArg _ (hk.lostItemFee.answer_lookup ht)

end Lookup

section Attach

variable {loan loan' : Loan}

theorem answer_attach : (s.attach loan item patron shelf).1.answer = (do
    let loanPolicy ← (s.lookupLoan item patron shelf).1.answer
    let finePolicy ←
      (s.lookupOverdueFine item patron (s.lookupLoan item patron shelf).2).1.answer
    return { loan with loanPolicy := some loanPolicy, finePolicy := some finePolicy }) := by
  have hb : (Session.both (s.lookupLoan item patron) (s.lookupOverdueFine item patron)
      shelf).1.answer = (do
        let loanPolicy ← (s.lookupLoan item patron shelf).1.answer
        let finePolicy ←
          (s.lookupOverdueFine item patron (s.lookupLoan item patron shelf).2).1.answer
        return (loanPolicy, finePolicy)) := rfl
  rw [attach, Session.answer_bind, hb]
  simp only [bind_assoc]
  rfl

theorem attach_snd : (s.attach loan item patron shelf).2 =
    (s.lookupOverdueFine item patron (s.lookupLoan item patron shelf).2).2 := by
  unfold attach
  cases h : (Session.both (s.lookupLoan item patron) (s.lookupOverdueFine item patron)
      shelf).1.answer with
  | ok policies =>
    rw [Session.bind_of_ok (a := policies) h]
    rfl
  | error e =>
    rw [Session.bind_of_error (e := e) h]
    rfl

theorem Keeps.attach (hk : s.Keeps shelf) : s.Keeps (s.attach loan item patron shelf).2 := by
  rw [attach_snd]
  exact hk.lookupLoan.lookupOverdueFine

theorem Keeps.answer_attach (hk : s.Keeps shelf) (ht : NamesByText s.applyRules) :
    (s.attach loan item patron shelf).1.answer = (s.attach loan item patron {}).1.answer := by
  rw [Sources.answer_attach, Sources.answer_attach, hk.answer_lookupLoan ht,
    hk.lookupLoan.answer_lookupOverdueFine ht, s.keeps_empty.lookupLoan.answer_lookupOverdueFine ht]

end Attach

section Page

/-- What a resolver can have found: nothing yet, or what calls on it have left. -/
inductive Reaches (s : Sources) : Shelf → Prop where
  | new : s.Reaches {}
  | lookupById {shelf : Shelf} (kind : PolicyKind) (id : Json) (h : s.Reaches shelf) :
      s.Reaches (s.lookupById kind id shelf).2
  | lookup {shelf : Shelf} (kind : PolicyKind) (item : Item) (patron : Patron)
      (h : s.Reaches shelf) : s.Reaches (s.lookup kind item patron shelf).2
  | resolve {shelf : Shelf} (item : Item) (patron : Patron) (h : s.Reaches shelf) :
      s.Reaches (s.resolve item patron shelf).2
  | attach {shelf : Shelf} (loan : Loan) (item : Item) (patron : Patron) (h : s.Reaches shelf) :
      s.Reaches (s.attach loan item patron shelf).2
  | attachAll {shelf : Shelf} (page : List (Loan × Item × Patron)) (h : s.Reaches shelf) :
      s.Reaches (s.attachAll page shelf).2

/-- What a loan becomes alone: the same loan, with the two policies that a new resolver finds for
the item and the patron. Where it finds policies of all kinds, they are among them. -/
def Attaches (s : Sources) (loan : Loan) (item : Item) (patron : Patron) (loan' : Loan) : Prop :=
  ∃ loanPolicy finePolicy,
    ((s.lookup .loan item patron).startingWith {}).answer = .ok (.loan loanPolicy) ∧
    ((s.lookup .overdueFine item patron).startingWith {}).answer = .ok (.overdueFine finePolicy) ∧
    loan' = { loan with loanPolicy := some loanPolicy, finePolicy := some finePolicy } ∧
    ∀ policies, ((s.resolve item patron).startingWith {}).answer = .ok policies →
      ∃ request notice fee, policies = [.loan loanPolicy, .request request, .notice notice,
        .overdueFine finePolicy, .lostItemFee fee]

variable {loan loan' : Loan} {page page' : List (Loan × Item × Patron)} {loans : List Loan}
  {policies : List Policy}

section

variable (ht : NamesByText s.applyRules)
include ht

theorem Keeps.resolve (hk : s.Keeps shelf) :
    (s.resolve item patron shelf).1.answer =
      PolicyKind.all.mapM (fun kind => (s.lookup kind item patron {}).1.answer) ∧
    s.Keeps (s.resolve item patron shelf).2 := by
  have hf (kind : PolicyKind) (shelf : Shelf) (hk : s.Keeps shelf) :
      (s.lookup kind item patron shelf).1.answer = (s.lookup kind item patron {}).1.answer ∧
        s.Keeps (s.lookup kind item patron shelf).2 :=
    ⟨hk.answer_lookup ht, hk.lookup⟩
  unfold Sources.resolve
  exact Session.all_of_invariant hf PolicyKind.all hk

theorem exists_of_resolve_eq_ok {loanPolicy : LoanPolicy} {finePolicy : OverdueFinePolicy}
    (hl : (s.lookup .loan item patron {}).1.answer = .ok (.loan loanPolicy))
    (hf : (s.lookup .overdueFine item patron {}).1.answer = .ok (.overdueFine finePolicy))
    (h : (s.resolve item patron {}).1.answer = .ok policies) :
    ∃ request notice fee, policies = [.loan loanPolicy, .request request, .notice notice,
      .overdueFine finePolicy, .lostItemFee fee] := by
  rw [(s.keeps_empty.resolve ht).1, mapM_eq_ok_iff] at h
  obtain _ | ⟨hl', _ | ⟨hr, _ | ⟨hn, _ | ⟨hf', _ | ⟨hi, _ | _⟩⟩⟩⟩⟩ := h
  rw [hl] at hl'
  rw [hf] at hf'
  obtain rfl := Except.ok.inj hl'
  obtain rfl := Except.ok.inj hf'
  simp only [lookup, Session.answer_map, map_eq_ok_iff] at hr hn hi
  obtain ⟨request, -, rfl⟩ := hr
  obtain ⟨notice, -, rfl⟩ := hn
  obtain ⟨fee, -, rfl⟩ := hi
  exact ⟨request, notice, fee, rfl⟩

theorem attaches_iff : s.Attaches loan item patron loan' ↔
    ((s.attach loan item patron).startingWith {}).answer = .ok loan' := by
  unfold Attaches Session.startingWith
  rw [answer_attach, s.keeps_empty.lookupLoan.answer_lookupOverdueFine ht]
  simp only [bind_eq_ok_iff, pure_eq_ok_iff]
  constructor
  · rintro ⟨loanPolicy, finePolicy, hl, hf, rfl, -⟩
    simp only [lookup, Session.answer_map, map_eq_ok_iff] at hl hf
    obtain ⟨_, hl, ⟨⟩⟩ := hl
    obtain ⟨_, hf, ⟨⟩⟩ := hf
    exact ⟨loanPolicy, hl, finePolicy, hf, rfl⟩
  · rintro ⟨loanPolicy, hl, finePolicy, hf, rfl⟩
    have hl' : (s.lookup .loan item patron {}).1.answer = .ok (.loan loanPolicy) := by
      rw [lookup, Session.answer_map, hl]
      rfl
    have hf' : (s.lookup .overdueFine item patron {}).1.answer = .ok (.overdueFine finePolicy) := by
      rw [lookup, Session.answer_map, hf]
      rfl
    exact ⟨loanPolicy, finePolicy, hl', hf', rfl, fun policies h =>
      exists_of_resolve_eq_ok ht hl' hf' h⟩

theorem Keeps.attachAll (hk : s.Keeps shelf) :
    (s.attachAll page shelf).1.answer =
      page.mapM (fun x => ((s.attach x.1 x.2.1 x.2.2).startingWith {}).answer) ∧
    s.Keeps (s.attachAll page shelf).2 := by
  refine Session.all_of_invariant (fun x shelf hk => ?_) page hk
  exact ⟨hk.answer_attach ht, hk.attach⟩

theorem Reaches.keeps (hr : s.Reaches shelf) : s.Keeps shelf := by
  induction hr with
  | new => exact s.keeps_empty
  | lookupById kind id _ ih => exact ih.lookupById kind id
  | lookup kind item patron _ ih => exact ih.lookup
  | resolve item patron _ ih => exact (ih.resolve ht).2
  | attach loan item patron _ ih => exact ih.attach
  | attachAll page _ ih => exact (ih.attachAll ht).2

end

/-- The loans of a page get the policies that they get alone, in the order given, whatever the
resolver has found before. The page fails only with the failure of one of its loans. -/
theorem page_is_loan_by_loan (s : Sources) (shelf : Shelf) (page : List (Loan × Item × Patron))
    (ht : NamesByText s.applyRules) (hr : s.Reaches shelf) :
    ((∃ loans, (s.attachAll page shelf).1.answer = .ok loans) ↔
      ∀ x ∈ page, ∃ loan', ((s.attach x.1 x.2.1 x.2.2).startingWith {}).answer = .ok loan') ∧
    (∀ loans, (s.attachAll page shelf).1.answer = .ok loans →
      List.Forall₂ (fun x loan' => s.Attaches x.1 x.2.1 x.2.2 loan') page loans ∧
      ∀ page', page.Perm page' → ∃ loans', (s.attachAll page' shelf).1.answer = .ok loans' ∧
        (page.zip loans).Perm (page'.zip loans')) ∧
    ∀ e, (s.attachAll page shelf).1.answer = .error e →
      ∃ x ∈ page, ((s.attach x.1 x.2.1 x.2.2).startingWith {}).answer = .error e := by
  have hok (page : List (Loan × Item × Patron)) (loans : List Loan) :
      (s.attachAll page shelf).1.answer = .ok loans ↔ List.Forall₂ (fun x loan' =>
        ((s.attach x.1 x.2.1 x.2.2).startingWith {}).answer = .ok loan') page loans := by
    rw [((hr.keeps ht).attachAll ht).1, mapM_eq_ok_iff]
  refine ⟨?_, fun loans h => ⟨?_, fun page' hp => ?_⟩, fun e h => ?_⟩
  · simp only [hok]
    exact exists_forall₂_iff
  · simp only [attaches_iff ht]
    exact (hok page loans).mp h
  · obtain ⟨loans', h', hz⟩ := exists_forall₂_of_perm hp ((hok page loans).mp h)
    exact ⟨loans', (hok page' loans').mpr h', hz⟩
  · rw [((hr.keeps ht).attachAll ht).1] at h
    exact exists_of_mapM_eq_error h

end Page

end Sources

def Loan.ofTerm : Loan where
  id := .str "loan"
  loanDate := none
  dueDate := none
  recalled := false
  servicePoint := .null

theorem RuleTable.namesByText_term (zone : Zone) :
    NamesByText (Catalogue.term.sources .term zone).applyRules := by
  have hr : RulesText.read "fallback-policy: l term r term n term o term i term" = .ok .term := by
    decide +kernel
  exact RulesText.namesByText_of_read hr

theorem Sources.page_is_loan_by_loan_of_term :
    let s := Catalogue.term.sources .term .utc
    let page := [(Loan.ofTerm, Item.shelved, Patron.reader), (.ofTerm, .shelved, .reader)]
    ∃ shelf loans, s.Reaches shelf ∧ (s.attachAll page shelf).1.answer = .ok loans ∧
      List.Forall₂ (fun x loan' => s.Attaches x.1 x.2.1 x.2.2 loan') page loans := by
  intro s page
  have hr : s.Reaches (s.lookup .loan .shelved .reader {}).2 := .lookup _ _ _ .new
  have hp := page_is_loan_by_loan s _ page (RuleTable.namesByText_term .utc) hr
  obtain ⟨loans, h⟩ := hp.1.mpr fun x hx => by
    obtain rfl : x = (.ofTerm, .shelved, .reader) := by simpa [page] using hx
    exact ⟨_, rfl⟩
  exact ⟨_, loans, hr, h, (hp.2.1 loans h).1⟩

end Lending
