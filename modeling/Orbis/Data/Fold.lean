import Mathlib.Algebra.BigOperators.Group.List.Basic

/-!
# Checks and loops that may fail

`require` is a guard and `okOr` an expected value in `Except`.  A loop that computes one term per
element, stops at the first error and accumulates the terms is
`l.foldlM (fun acc a => do let b ← g a; pure (op acc b)) s` in `Except`.  The two directions below
replace such a loop by the plain fold of its terms.
-/

namespace Orbis.Data

variable {α β σ ε A : Type}

theorem bind_eq_ok {x : Except ε α} {f : α → Except ε β} {b : β} :
    (x >>= f) = .ok b ↔ ∃ a, x = .ok a ∧ f a = .ok b := by
  cases x <;> simp [bind, Except.bind]

@[simp] theorem ok_bind (a : α) (f : α → Except ε β) : ((.ok a : Except ε α) >>= f) = f a := rfl

@[simp] theorem error_bind (e : ε) (f : α → Except ε β) :
    ((.error e : Except ε α) >>= f) = .error e := rfl

@[simp] theorem mapError_ok {ε' : Type} (a : α) (f : ε → ε') :
    (.ok a : Except ε α).mapError f = .ok a := rfl

theorem mapError_eq_ok {ε' : Type} {x : Except ε α} {f : ε → ε'} {a : α} :
    x.mapError f = .ok a ↔ x = .ok a := by
  cases x <;> simp [Except.mapError]

theorem mapError_eq_error {ε' : Type} {x : Except ε α} {f : ε → ε'} {e' : ε'} :
    x.mapError f = .error e' ↔ ∃ e, x = .error e ∧ f e = e' := by
  cases x <;> simp [Except.mapError]

theorem toOption_eq_some {x : Except ε α} {a : α} : x.toOption = some a ↔ x = .ok a := by
  cases x <;> simp [Except.toOption]

def require (c : Prop) [Decidable c] (e : ε) : Except ε Unit := if c then .ok () else .error e

theorem require_eq_ok {c : Prop} [Decidable c] {e : ε} {u : Unit} :
    require c e = .ok u ↔ c := by
  unfold require
  split <;> simp_all

theorem require_bind {c : Prop} [Decidable c] (h : c) (e : ε) (f : Unit → Except ε β) :
    (require c e >>= f) = f () := by
  rw [require, if_pos h, ok_bind]

theorem require_bind_eq_ok {c : Prop} [Decidable c] {e : ε} {f : Unit → Except ε β} {b : β} :
    (require c e >>= f) = .ok b ↔ c ∧ f () = .ok b := by
  rw [bind_eq_ok]
  exact ⟨fun ⟨_, hc, h⟩ => ⟨require_eq_ok.mp hc, h⟩, fun ⟨hc, h⟩ => ⟨(), require_eq_ok.mpr hc, h⟩⟩

def okOr (o : Option α) (e : ε) : Except ε α :=
  match o with
  | some a => .ok a
  | none => .error e

@[simp] theorem okOr_some (a : α) (e : ε) : okOr (some a) e = .ok a := rfl

theorem okOr_eq_ok {o : Option α} {e : ε} {a : α} : okOr o e = .ok a ↔ o = some a := by
  cases o <;> simp [okOr]

theorem foldlM_ok_of_forall {g : α → Except ε β} {op : σ → β → σ} {term : α → β} {l : List α}
    (h : ∀ a ∈ l, g a = .ok (term a)) (s : σ) :
    l.foldlM (fun acc a => do let b ← g a; pure (op acc b)) s = .ok ((l.map term).foldl op s) := by
  induction l generalizing s with
  | nil => rfl
  | cons a l ih =>
    rw [List.foldlM_cons, h a (by simp), List.map_cons, List.foldl_cons]
    exact ih (fun b hb => h b (by simp [hb])) _

theorem forM_eq_ok {f : α → Except ε Unit} {l : List α} (h : ∀ a ∈ l, f a = .ok ()) :
    l.forM f = .ok () := by
  induction l with
  | nil => rfl
  | cons a l ih =>
    have hl : l.forM f = .ok () := ih fun b hb => h b (List.mem_cons_of_mem a hb)
    change (f a >>= fun _ => l.forM f) = .ok ()
    rw [h a List.mem_cons_self, ok_bind, hl]

theorem mapM_ok_of_forall {f : α → Except ε β} {g : α → β} {l : List α}
    (h : ∀ a ∈ l, f a = .ok (g a)) : l.mapM f = .ok (l.map g) := by
  induction l with
  | nil => rfl
  | cons a l ih =>
    rw [List.mapM_cons, h a List.mem_cons_self, ok_bind,
      ih fun b hb => h b (List.mem_cons_of_mem a hb), ok_bind]
    rfl

theorem exists_terms_of_foldlM_ok {g : α → Except ε β} {op : σ → β → σ} {l : List α} {s r : σ}
    (h : l.foldlM (fun acc a => do let b ← g a; pure (op acc b)) s = .ok r) :
    ∀ a ∈ l, ∃ b, g a = .ok b := by
  induction l generalizing s with
  | nil => simp
  | cons a l ih =>
    rw [List.foldlM_cons, bind_eq_ok] at h
    obtain ⟨s', hstep, hrest⟩ := h
    obtain ⟨b, hb, -⟩ := bind_eq_ok.mp hstep
    intro c hc
    rcases List.mem_cons.mp hc with rfl | hc
    · exact ⟨b, hb⟩
    · exact ih hrest c hc

/-- After `a` has been seen, the elements that come later are still new. -/
theorem forall_new_cons {f : α → β} {a : α} {l : List α} {seen : List β} (ha : f a ∉ l.map f)
    (hnew : ∀ b ∈ a :: l, f b ∉ seen) : ∀ b ∈ l, f b ∉ f a :: seen := by
  intro b hb hold
  rcases List.mem_cons.mp hold with heq | hold
  · exact ha (List.mem_map.mpr ⟨b, hb, heq⟩)
  · exact hnew b (List.mem_cons_of_mem a hb) hold

theorem foldl_add_eq_add_sum [AddCommMonoid A] (l : List A) (s : A) :
    l.foldl (· + ·) s = s + l.sum := by
  induction l generalizing s with
  | nil => simp
  | cons a l ih => rw [List.foldl_cons, ih, List.sum_cons, add_assoc]

theorem foldlM_add_ok [AddCommMonoid A] {g : α → Except ε A} {l : List α} {s r : A}
    (h : l.foldlM (fun acc a => do let b ← g a; pure (acc + b)) s = .ok r) :
    ∃ term : α → A, (∀ a ∈ l, g a = .ok (term a)) ∧ r = s + (l.map term).sum := by
  classical
  have hterms := exists_terms_of_foldlM_ok h
  choose! term hterm using hterms
  refine ⟨term, hterm, ?_⟩
  rw [foldlM_ok_of_forall hterm, foldl_add_eq_add_sum] at h
  exact (Except.ok.inj h).symm

end Orbis.Data
