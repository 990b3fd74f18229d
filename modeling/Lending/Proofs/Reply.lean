import Lending.Proofs.Result
import Lending.Reply

/-! # Answers of replies and sessions

What the answer of composed work is. Events never change an answer.
-/

namespace Lending

variable {α β σ τ : Type}

namespace Reply

theorem bind_of_ok {x : Reply α} {f : α → Reply β} {a : α} (h : x.answer = .ok a) :
    x >>= f = { f a with events := x.events ++ (f a).events } := by
  change Reply.bind x f = _
  unfold Reply.bind
  rw [h]

theorem bind_of_error {x : Reply α} {f : α → Reply β} {e : Failure} (h : x.answer = .error e) :
    x >>= f = { events := x.events, answer := .error e } := by
  change Reply.bind x f = _
  unfold Reply.bind
  rw [h]

theorem lift_ok_bind (a : α) (f : α → Reply β) :
    (liftM (.ok a : Result α) : Reply α) >>= f = f a := rfl

theorem lift_bind (x : Result α) (f : α → Result β) :
    (liftM (x >>= f) : Reply β) = (liftM x : Reply α) >>= fun a => liftM (f a) := by
  cases x <;> rfl

@[simp] theorem answer_bind (x : Reply α) (f : α → Reply β) :
    (x >>= f).answer = x.answer >>= fun a => (f a).answer := by
  cases h : x.answer with
  | ok a =>
    rw [bind_of_ok h]
    rfl
  | error e =>
    rw [bind_of_error h]
    rfl

theorem answer_bind_of_error {x : Reply α} {f : α → Reply β} {e : Failure}
    (h : x.answer = .error e) : (x >>= f).answer = .error e := by
  rw [bind_of_error h]

theorem events_prefix_bind (x : Reply α) (f : α → Reply β) : x.events <+: (x >>= f).events := by
  cases h : x.answer with
  | ok a =>
    rw [bind_of_ok h]
    exact List.prefix_append _ _
  | error e => simp [bind_of_error h]

theorem events_bind_of_quiet {x : Reply α} {f : α → Reply β} (h : ∀ a, (f a).events = []) :
    (x >>= f).events = x.events := by
  cases hx : x.answer with
  | ok a => simp [bind_of_ok hx, h]
  | error e => simp [bind_of_error hx]

@[simp] theorem answer_pure (a : α) : (pure a : Reply α).answer = .ok a := rfl

@[simp] theorem answer_ofResult (r : Result α) : (ofResult r).answer = r := rfl

@[simp] theorem answer_lift (r : Result α) : (liftM r : Reply α).answer = r := rfl

@[simp] theorem answer_fail (e : Failure) : (fail e : Reply α).answer = .error e := rfl

@[simp] theorem answer_note (e : Event) : (note e).answer = .ok () := rfl

@[simp] theorem answer_count (c : Counter) (amount : Int) : (count c amount).answer = .ok () := rfl

@[simp] theorem answer_onFailure (x : Reply α) (e : Event) : (x.onFailure e).answer = x.answer := by
  unfold onFailure
  split <;> rfl

theorem all_eq_ok_iff {xs : List (Reply α)} {ys : List α} :
    (all xs).answer = .ok ys ↔ List.Forall₂ (fun x y => x.answer = .ok y) xs ys := by
  induction xs generalizing ys with
  | nil =>
    rw [all, answer_pure, List.forall₂_nil_left_iff, Except.ok.injEq, eq_comm]
  | cons x xs ih =>
    simp only [all, bind_eq_ok_iff, pure_eq_ok_iff, ih]
    constructor
    · rintro ⟨y, hy, ys', hys, rfl⟩
      exact .cons hy hys
    · rintro (_ | ⟨hy, hys⟩)
      exact ⟨_, hy, _, hys, rfl⟩

theorem events_all (xs : List (Reply α)) : (all xs).events = xs.flatMap (·.events) := by
  induction xs with
  | nil => rfl
  | cons x xs ih => rw [all, List.flatMap_cons, ih]

theorem exists_of_all_eq_error {xs : List (Reply α)} {e : Failure}
    (h : (all xs).answer = .error e) : ∃ x ∈ xs, x.answer = .error e := by
  induction xs with
  | nil => cases h
  | cons x xs ih =>
    simp only [all, bind_eq_error_iff, pure_ne_error, and_false, exists_false, or_false] at h
    obtain h | ⟨-, -, h⟩ := h
    · exact ⟨x, by simp, h⟩
    · obtain ⟨x', hx, h⟩ := ih h
      exact ⟨x', List.mem_cons_of_mem _ hx, h⟩

end Reply

namespace Session

variable {s : σ}

theorem bind_of_ok {x : Session σ α} {f : α → Session σ β} {a : α} (h : (x s).1.answer = .ok a) :
    (x >>= f) s = ({ (f a (x s).2).1 with events := (x s).1.events ++ (f a (x s).2).1.events },
      (f a (x s).2).2) := by
  change Session.bind x f s = _
  unfold Session.bind
  simp only [h]

theorem bind_of_error {x : Session σ α} {f : α → Session σ β} {e : Failure}
    (h : (x s).1.answer = .error e) :
    (x >>= f) s = ({ events := (x s).1.events, answer := .error e }, (x s).2) := by
  change Session.bind x f s = _
  unfold Session.bind
  simp only [h]

@[simp] theorem answer_bind (x : Session σ α) (f : α → Session σ β) :
    ((x >>= f) s).1.answer = (x s).1.answer >>= fun a => (f a (x s).2).1.answer := by
  cases h : (x s).1.answer with
  | ok a =>
    rw [bind_of_ok h]
    rfl
  | error e =>
    rw [bind_of_error h]
    rfl

theorem events_prefix_bind (x : Session σ α) (f : α → Session σ β) :
    (x s).1.events <+: ((x >>= f) s).1.events := by
  cases h : (x s).1.answer with
  | ok a =>
    rw [bind_of_ok h]
    exact List.prefix_append _ _
  | error e => simp [bind_of_error h]

@[simp] theorem answer_pure (a : α) : ((pure a : Session σ α) s).1.answer = .ok a := rfl

@[simp] theorem answer_lift (r : Reply α) : ((liftM r : Session σ α) s).1.answer = r.answer := rfl

@[simp] theorem answer_get : ((get : Session σ σ) s).1.answer = .ok s := rfl

@[simp] theorem get_snd : ((get : Session σ σ) s).2 = s := rfl

@[simp] theorem answer_update (f : σ → σ) : (update f s).1.answer = .ok () := rfl

@[simp] theorem answer_map (f : α → β) (x : Session σ α) :
    ((f <$> x) s).1.answer = f <$> (x s).1.answer := by
  change ((x >>= fun a => pure (f a)) s).1.answer = _
  rw [answer_bind]
  cases (x s).1.answer <;> rfl

@[simp] theorem map_snd (f : α → β) (x : Session σ α) : ((f <$> x) s).2 = (x s).2 := by
  change ((x >>= fun a => pure (f a)) s).2 = _
  cases h : (x s).1.answer with
  | ok a =>
    rw [bind_of_ok h]
    rfl
  | error e => rw [bind_of_error h]

@[simp] theorem onPart_fst (part : σ → τ) (put : τ → σ → σ) (x : Session τ α) :
    (onPart part put x s).1 = (x (part s)).1 := rfl

/-- Pieces of work that keep an invariant, and whose answers do not depend on more than it, have
these answers one after the other too. -/
theorem all_of_invariant {ι : Type} {inv : σ → Prop} {f : ι → Session σ α} {answer : ι → Result α}
    (hf : ∀ i s, inv s → (f i s).1.answer = answer i ∧ inv (f i s).2) (is : List ι) (hs : inv s) :
    (all (is.map f) s).1.answer = is.mapM answer ∧ inv (all (is.map f) s).2 := by
  induction is generalizing s with
  | nil => exact ⟨rfl, hs⟩
  | cons i is ih =>
    obtain ⟨ha, hi⟩ := hf i s hs
    obtain ⟨has, his⟩ := ih hi
    refine ⟨?_, his⟩
    rw [List.mapM_cons, ← ha, ← has]
    rfl

end Session

end Lending
