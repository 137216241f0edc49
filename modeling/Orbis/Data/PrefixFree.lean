import Mathlib.Data.List.Basic

/-!
# Prefix-free encodings

An encoding is prefix-free if a value and what follows it can be told from their concatenation.
Encodings of a fixed width are, so are encodings after their length, lists after their number of
entries, and options after a tag.  Most encodings are so only for values of a bounded size, which
is the domain `p`.
-/

namespace Orbis.Data

variable {α β γ : Type}

def PrefixFreeOn (p : α → Prop) (enc : α → List β) : Prop :=
  ∀ ⦃a b : α⦄, p a → p b → ∀ ⦃s t : List β⦄, enc a ++ s = enc b ++ t → a = b ∧ s = t

namespace PrefixFreeOn

variable {p : α → Prop} {q : γ → Prop} {enc : α → List β}

theorem injOn (h : PrefixFreeOn p enc) {a b : α} (ha : p a) (hb : p b) (heq : enc a = enc b) :
    a = b :=
  (h ha hb (congrArg (· ++ []) heq)).1

/-- Encodings of a fixed width. -/
theorem of_length {width : ℕ} (hwidth : ∀ a, (enc a).length = width)
    (hinj : ∀ a b, p a → p b → enc a = enc b → a = b) : PrefixFreeOn p enc := by
  intro a b ha hb s t heq
  obtain ⟨hhead, hrest⟩ := List.append_inj heq ((hwidth a).trans (hwidth b).symm)
  exact ⟨hinj a b ha hb hhead, hrest⟩

section

variable (h : PrefixFreeOn p enc)
include h

theorem mono {p' : α → Prop} (hp : ∀ a, p' a → p a) :
    PrefixFreeOn p' enc :=
  fun _ _ ha hb => h (hp _ ha) (hp _ hb)

theorem congr {enc' : α → List β} (heq : ∀ a, enc' a = enc a) :
    PrefixFreeOn p enc' := by
  rwa [funext heq]

theorem comp {f : γ → α} (hmaps : ∀ c, q c → p (f c))
    (hinj : ∀ c d, q c → q d → f c = f d → c = d) : PrefixFreeOn q fun c => enc (f c) := by
  intro c d hc hd s t heq
  obtain ⟨hfc, hrest⟩ := h (hmaps c hc) (hmaps d hd) heq
  exact ⟨hinj c d hc hd hfc, hrest⟩

theorem append {enc' : γ → List β} (h' : PrefixFreeOn q enc') :
    PrefixFreeOn (fun x : α × γ => p x.1 ∧ q x.2) fun x => enc x.1 ++ enc' x.2 := by
  intro x y hx hy s t heq
  rw [List.append_assoc, List.append_assoc] at heq
  obtain ⟨hfst, hrest⟩ := h hx.1 hy.1 heq
  obtain ⟨hsnd, hrest'⟩ := h' hx.2 hy.2 hrest
  exact ⟨Prod.ext hfst hsnd, hrest'⟩

theorem after (mark : List β) :
    PrefixFreeOn p fun a => mark ++ enc a := by
  intro a b ha hb s t heq
  rw [List.append_assoc, List.append_assoc] at heq
  exact h ha hb (List.append_cancel_left heq)

/-- Lists of one length. -/
theorem flatMap {l l' : List α} (hlength : l.length = l'.length) (hl : ∀ a ∈ l, p a)
    (hl' : ∀ a ∈ l', p a) {s t : List β}
    (heq : l.flatMap enc ++ s = l'.flatMap enc ++ t) : l = l' ∧ s = t := by
  induction l generalizing l' with
  | nil =>
    obtain rfl := List.length_eq_zero_iff.mp hlength.symm
    exact ⟨rfl, heq⟩
  | cons a l ih =>
    cases l' with
    | nil => cases hlength
    | cons b l' =>
      simp only [List.flatMap_cons, List.append_assoc] at heq
      obtain ⟨rfl, hrest⟩ := h (hl a List.mem_cons_self) (hl' b List.mem_cons_self) heq
      obtain ⟨rfl, rfl⟩ := ih (Nat.succ.inj hlength) (fun c hc => hl c (List.mem_cons_of_mem a hc))
        (fun c hc => hl' c (List.mem_cons_of_mem a hc)) hrest
      exact ⟨rfl, rfl⟩

/-- A list after its length. -/
theorem counted {header : ℕ → List β} {size : ℕ → Prop} (hheader : PrefixFreeOn size header) :
    PrefixFreeOn (fun l : List α => size l.length ∧ ∀ a ∈ l, p a)
      fun l => header l.length ++ l.flatMap enc := by
  intro l l' hl hl' s t heq
  rw [List.append_assoc, List.append_assoc] at heq
  obtain ⟨hlength, hrest⟩ := hheader hl.1 hl'.1 heq
  exact h.flatMap hlength hl.2 hl'.2 hrest

end

/-- The symbols themselves after their number. -/
theorem lengthPrefixed {header : ℕ → List β} {size : ℕ → Prop}
    (hheader : PrefixFreeOn size header) :
    PrefixFreeOn (fun l : List β => size l.length) fun l => header l.length ++ l := by
  intro l l' hl hl' s t heq
  rw [List.append_assoc, List.append_assoc] at heq
  obtain ⟨hlength, hrest⟩ := hheader hl hl' heq
  exact List.append_inj hrest hlength

/-- A number as that many marks and a last one. -/
theorem unary {mark last : β} (hne : mark ≠ last) :
    PrefixFreeOn (fun _ => True) fun n : ℕ => List.replicate n mark ++ [last] := by
  intro m n _ _ s t heq
  induction m generalizing n with
  | zero =>
    cases n with
    | zero => exact ⟨rfl, (List.cons.inj heq).2⟩
    | succ n => exact absurd (List.cons.inj heq).1.symm hne
  | succ m ih =>
    cases n with
    | zero => exact absurd (List.cons.inj heq).1 hne
    | succ n =>
      obtain ⟨hmn, hst⟩ := ih (List.cons.inj heq).2
      exact ⟨congrArg Nat.succ hmn, hst⟩

end PrefixFreeOn

end Orbis.Data
