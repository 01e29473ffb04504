import Mathlib

/-!
# Outcomes of steps that may fail

What the outcome of several steps, taken one after the other, says about each of them.
-/

namespace TableGateway

variable {ε α β : Type}

lemma exists_of_bind_eq_ok {x : Except ε α} {f : α → Except ε β} {b : β}
    (h : x >>= f = .ok b) : ∃ a, x = .ok a ∧ f a = .ok b := by
  cases x with
  | error e => cases h
  | ok a => exact ⟨a, rfl, h⟩

lemma ok_bind (a : α) (f : α → Except ε β) : (Except.ok a >>= f) = f a := rfl

lemma of_bind_eq_error {x : Except ε α} {f : α → Except ε β} {e : ε}
    (h : x >>= f = .error e) : x = .error e ∨ ∃ a, x = .ok a ∧ f a = .error e := by
  cases x with
  | error e' =>
    cases h
    exact .inl rfl
  | ok a => exact .inr ⟨a, rfl, h⟩

lemma ne_error_of_ok {x : Except ε α} (h : ∃ a, x = .ok a) (e : ε) :
    x ≠ .error e := by
  rintro rfl
  obtain ⟨a, ha⟩ := h
  cases ha

lemma mapError_eq_ok {φ : Type} {x : Except ε α} {f : ε → φ} {a : α} :
    x.mapError f = .ok a ↔ x = .ok a := by
  cases x <;> simp [Except.mapError]

lemma exists_mapM_eq_ok {f : α → Except ε β} {items : List α}
    (h : ∀ a ∈ items, ∃ b, f a = .ok b) : ∃ bs, items.mapM f = .ok bs := by
  induction items with
  | nil => exact ⟨[], rfl⟩
  | cons a rest ih =>
    obtain ⟨b, hb⟩ := h a List.mem_cons_self
    obtain ⟨bs, hbs⟩ := ih fun c hc => h c (List.mem_cons_of_mem a hc)
    refine ⟨b :: bs, ?_⟩
    rw [List.mapM_cons, hb, ok_bind, hbs]
    rfl

lemma mapM_eq_ok_iff {f : α → Except ε β} {items : List α} {bs : List β} :
    items.mapM f = .ok bs ↔ List.Forall₂ (fun a b => f a = .ok b) items bs := by
  induction items generalizing bs with
  | nil =>
    rw [List.forall₂_nil_left_iff]
    constructor
    · intro h
      cases h
      rfl
    · rintro rfl
      rfl
  | cons a rest ih =>
    rw [List.mapM_cons, List.forall₂_cons_left_iff]
    constructor
    · intro h
      obtain ⟨b, hb, h⟩ := exists_of_bind_eq_ok h
      obtain ⟨bs, hbs, h⟩ := exists_of_bind_eq_ok h
      cases h
      exact ⟨b, bs, hb, ih.mp hbs, rfl⟩
    · rintro ⟨b, bs, hb, hbs, rfl⟩
      rw [hb, ok_bind, ih.mpr hbs]
      rfl

lemma exists_of_forall₂ {R : α → β → Prop} {items : List α} {bs : List β}
    (h : List.Forall₂ R items bs) {b : β} (hb : b ∈ bs) : ∃ a ∈ items, R a b := by
  induction h with
  | nil => cases hb
  | cons hR _ ih =>
    rcases List.mem_cons.mp hb with rfl | hb
    · exact ⟨_, List.mem_cons_self, hR⟩
    · obtain ⟨a, ha, hR⟩ := ih hb
      exact ⟨a, List.mem_cons_of_mem _ ha, hR⟩

/-- The first failure is the one that counts. -/
lemma mapM_append_cons_eq_error {f : α → Except ε β} {before after : List α} {a : α} {e : ε}
    (hbefore : ∀ c ∈ before, ∃ b, f c = .ok b) (ha : f a = .error e) :
    (before ++ a :: after).mapM f = .error e := by
  obtain ⟨bs, hbs⟩ := exists_mapM_eq_ok hbefore
  rw [List.mapM_append, hbs, ok_bind, List.mapM_cons, ha]
  rfl

lemma exists_of_mapM_eq_error {f : α → Except ε β} {items : List α} {e : ε}
    (h : items.mapM f = .error e) : ∃ a ∈ items, f a = .error e := by
  induction items with
  | nil => cases h
  | cons a rest ih =>
    rw [List.mapM_cons] at h
    rcases of_bind_eq_error h with ha | ⟨b, -, h⟩
    · exact ⟨a, List.mem_cons_self, ha⟩
    · rcases of_bind_eq_error h with hrest | ⟨bs, -, h⟩
      · obtain ⟨c, hc, he⟩ := ih hrest
        exact ⟨c, List.mem_cons_of_mem a hc, he⟩
      · cases h

lemma exists_zip_mapM_eq_ok_iff {γ : Type} {f : α → Except ε β} {g : α × β → Except ε γ}
    {items : List α} {cs : List γ} :
    (∃ bs, items.mapM f = .ok bs ∧ (items.zip bs).mapM g = .ok cs) ↔
      List.Forall₂ (fun a c => ∃ b, f a = .ok b ∧ g (a, b) = .ok c) items cs := by
  simp only [mapM_eq_ok_iff]
  induction items generalizing cs with
  | nil => simp
  | cons a rest ih =>
    constructor
    · rintro ⟨bs, hbs, hcs⟩
      cases hbs with
      | cons hb hbs =>
        cases hcs with
        | cons hc hcs => exact .cons ⟨_, hb, hc⟩ (ih.mp ⟨_, hbs, hcs⟩)
    · intro h
      cases h with
      | cons hc hcs =>
        obtain ⟨b, hb, hc⟩ := hc
        obtain ⟨bs, hbs, hcs⟩ := ih.mpr hcs
        exact ⟨b :: bs, .cons hb hbs, .cons hc hcs⟩

/-! ### Steps that change a state -/

section States

variable {σ : Type} {work : ExceptT ε (StateM σ) α} {rest : α → ExceptT ε (StateM σ) β} {s t u : σ}

lemma run_bind_of_run_ok {a : α} (h : work.run.run s = (.ok a, t)) :
    (work >>= rest).run.run s = (rest a).run.run t := by
  rw [ExceptT.run_bind, StateT.run_bind, h]
  rfl

lemma run_bind_of_run_error {e : ε} (h : work.run.run s = (.error e, t)) :
    (work >>= rest).run.run s = (.error e, t) := by
  rw [ExceptT.run_bind, StateT.run_bind, h]
  rfl

lemma exists_of_run_bind_eq_ok {b : β} (h : (work >>= rest).run.run s = (.ok b, u)) :
    ∃ a t, work.run.run s = (.ok a, t) ∧ (rest a).run.run t = (.ok b, u) := by
  rcases hwork : work.run.run s with ⟨_ | a, t⟩
  · rw [run_bind_of_run_error hwork] at h
    cases h
  · rw [run_bind_of_run_ok hwork] at h
    exact ⟨a, t, rfl, h⟩

lemma of_run_bind_eq_error {e : ε} (h : (work >>= rest).run.run s = (.error e, u)) :
    work.run.run s = (.error e, u) ∨
      ∃ a t, work.run.run s = (.ok a, t) ∧ (rest a).run.run t = (.error e, u) := by
  rcases hwork : work.run.run s with ⟨_ | a, t⟩
  · rw [run_bind_of_run_error hwork] at h
    cases h
    exact .inl rfl
  · rw [run_bind_of_run_ok hwork] at h
    exact .inr ⟨a, t, rfl, h⟩

end States

end TableGateway
