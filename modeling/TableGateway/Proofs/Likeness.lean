import Mathlib
import TableGateway.Proofs.NestedRows

/-!
# Data of one shape

Two pieces of data are alike when they differ in scalars only, and there as a relation allows. The
relation is arbitrary: it can say which scalar has taken the place of which. Whatever is rendered
from data that are alike is alike, and two renderings that are alike have the same text.

Two outcomes agree when they are related results or one and the same error.
-/

namespace TableGateway

/-- Entries under one key, whose contents are related. -/
inductive SameKey {κ α β : Type} (S : α → β → Prop) : κ × α → κ × β → Prop
  | mk (key : κ) {a : α} {b : β} (h : S a b) : SameKey S (key, a) (key, b)

/-- Values that differ in scalars only, which are related. -/
inductive Value.Alike (R : Value → Value → Prop) : Value → Value → Prop
  | scalar {v w : Value} (hv : v.isKey) (hw : w.isKey) (h : R v w) : Alike R v w
  | array {vs ws : List Value} (h : List.Forall₂ (Alike R) vs ws) :
    Alike R (.array vs) (.array ws)
  | object {ms ns : List (String × Value)} (h : List.Forall₂ (SameKey (Alike R)) ms ns) :
    Alike R (.object ms) (.object ns)

lemma Value.members?_of_isKey {v : Value} (h : v.isKey) : v.members? = none := by
  cases v with
  | object members => cases h
  | _ => rfl

namespace Query

/-- Data that differ in scalars only, which are related. -/
inductive Datum.Alike (R : Value → Value → Prop) : Datum → Datum → Prop
  | value {v w : Value} (h : v.Alike R w) : Alike R (.value v) (.value w)
  | object {ms ns : List (String × Datum)} (h : List.Forall₂ (SameKey (Alike R)) ms ns) :
    Alike R (.object ms) (.object ns)
  | reference (r : Reference) : Alike R (.reference r) (.reference r)

/-- Members under the same keys, with data that are alike. -/
def MembersAlike (R : Value → Value → Prop) : List (String × Datum) → List (String × Datum) → Prop :=
  List.Forall₂ (SameKey (Datum.Alike R))

/-- The same text, or data that are alike. -/
inductive Part.Alike (R : Value → Value → Prop) : Part → Part → Prop
  | text (s : String) : Alike R (.text s) (.text s)
  | datum {d e : Datum} (h : d.Alike R e) : Alike R (.datum d) (.datum e)

/-- The same text, with data that are alike in the same places. -/
def Rendering.Alike (R : Value → Value → Prop) : Rendering → Rendering → Prop :=
  List.Forall₂ (Part.Alike R)

section Alike

variable {R : Value → Value → Prop}

namespace Rendering

lemma Alike.text (s : String) : Alike R (text s) (text s) :=
  List.Forall₂.cons (.text s) .nil

lemma Alike.datum {d e : Datum} (h : d.Alike R e) : Alike R [.datum d] [.datum e] :=
  List.Forall₂.cons (.datum h) .nil

lemma Alike.append {r s r' s' : Rendering} (h : Alike R r s) (h' : Alike R r' s') :
    Alike R (r ++ r') (s ++ s') :=
  List.rel_append h h'

lemma Alike.ofSql (s : Sql) : Alike R (ofSql s) (ofSql s) := by
  induction s with
  | nil => exact List.Forall₂.nil
  | cons piece rest ih =>
    cases piece with
    | text t => exact List.Forall₂.cons (.text t) ih
    | slot n => exact ih

lemma Alike.separated (separator : String) {parts others : List Rendering}
    (h : List.Forall₂ (Alike R) parts others) :
    Alike R (separated separator parts) (separated separator others) := by
  unfold Rendering.separated
  induction h with
  | nil => exact List.Forall₂.nil
  | cons hpart hrest ih =>
    cases hrest with
    | nil => simpa using hpart
    | cons hnext hrest =>
      rw [List.intercalate_cons_cons, List.intercalate_cons_cons]
      exact (hpart.append (.text separator)).append ih

/-- What differs in values only is numbered alike, with values that are alike. -/
lemma Alike.numbered {r s : Rendering} (h : Alike R r s) (n : Nat) :
    numbered n r = numbered n s ∧ List.Forall₂ (Datum.Alike R) (data r) (data s) := by
  induction h generalizing n with
  | nil => exact ⟨rfl, .nil⟩
  | cons hpart hrest ih =>
    cases hpart with
    | text t =>
      obtain ⟨hnumbered, hdata⟩ := ih n
      exact ⟨congrArg (List.cons _) hnumbered, hdata⟩
    | datum hd =>
      obtain ⟨hnumbered, hdata⟩ := ih (n + 1)
      exact ⟨congrArg (List.cons _) hnumbered, .cons hd hdata⟩

end Rendering

lemma MembersAlike.value {ms ns : List (String × Value)}
    (h : List.Forall₂ (SameKey (Value.Alike R)) ms ns) :
    MembersAlike R (ms.map fun m => (m.1, .value m.2)) (ns.map fun n => (n.1, .value n.2)) := by
  apply List.rel_map _ h
  rintro _ _ ⟨key, hvw⟩
  exact .mk key (.value hvw)

lemma Datum.Alike.members? {d e : Datum} (h : d.Alike R e) :
    Option.Rel (MembersAlike R) d.members? e.members? := by
  cases h with
  | value h =>
    cases h with
    | scalar hv hw =>
      rw [Datum.members?, Datum.members?, Value.members?_of_isKey hv, Value.members?_of_isKey hw]
      exact .none
    | array => exact .none
    | object h => exact .some (.value h)
  | object h => exact .some h
  | reference r => exact .none

lemma MembersAlike.lookup {ms ns : List (String × Datum)} (h : MembersAlike R ms ns)
    (key : String) : Option.Rel (Datum.Alike R) (ms.lookup key) (ns.lookup key) := by
  induction h with
  | nil => exact .none
  | cons hmn _ ih =>
    obtain ⟨name, hde⟩ := hmn
    rw [List.lookup_cons, List.lookup_cons]
    cases key == name with
    | true => exact .some hde
    | false => exact ih

lemma MembersAlike.modifyMember {ms ns : List (String × Datum)} (h : MembersAlike R ms ns)
    (key : String) {f g : Datum → Datum} (hfg : ∀ d e, d.Alike R e → (f d).Alike R (g e)) :
    MembersAlike R (modifyMember key f ms) (modifyMember key g ns) := by
  induction h with
  | nil => exact .nil
  | cons hmn hrest ih =>
    obtain ⟨name, hde⟩ := hmn
    unfold TableGateway.modifyMember
    dsimp only
    split
    · exact .cons (.mk key (hfg _ _ hde)) hrest
    · exact .cons (.mk name hde) ih

lemma Datum.Alike.set {d e new new' : Datum} (h : d.Alike R e) (hnew : new.Alike R new')
    (path : List String) : (d.set path new).Alike R (e.set path new') := by
  induction path generalizing d e with
  | nil => exact hnew
  | cons key path ih =>
    have hmembers := h.members?
    unfold Datum.set
    cases hd : d.members? <;> cases he : e.members? <;> rw [hd, he] at hmembers <;>
      cases hmembers
    · exact h
    · next hmembers => exact .object (hmembers.modifyMember key fun _ _ hde => ih hde)

/-- Keys do not differ, whatever the contents. -/
lemma map_fst_of_sameKey {κ α β : Type} {S : α → β → Prop} {es : List (κ × α)}
    {fs : List (κ × β)} (h : List.Forall₂ (SameKey S) es fs) : es.map Prod.fst = fs.map Prod.fst := by
  induction h with
  | nil => rfl
  | cons hef _ ih =>
    obtain ⟨key, -⟩ := hef
    rw [List.map_cons, List.map_cons, ih]

end Alike

/-- Two outcomes agree: their results are related, or both fail for the same reason, of which
something is known. -/
inductive Agree {ε α β : Type} (P : ε → Prop) (S : α → β → Prop) : Except ε α → Except ε β → Prop
  | ok {a : α} {b : β} (h : S a b) : Agree P S (.ok a) (.ok b)
  | error {e : ε} (h : P e) : Agree P S (.error e) (.error e)

namespace Agree

variable {ε φ α β γ δ ι κ : Type} {P Q : ε → Prop} {S : α → β → Prop} {T : γ → δ → Prop}
  {x : Except ε α} {y : Except ε β}

lemma mono (h : Agree P S x y) (hPQ : ∀ e, P e → Q e) : Agree Q S x y := by
  cases h with
  | ok h => exact .ok h
  | error h => exact .error (hPQ _ h)

lemma bind {f : α → Except ε γ} {g : β → Except ε δ} (h : Agree P S x y)
    (hrest : ∀ a b, S a b → Agree P T (f a) (g b)) : Agree P T (x >>= f) (y >>= g) := by
  cases h with
  | ok h => exact hrest _ _ h
  | error h => exact .error h

/-- A step that both have in common. -/
lemma bind_same {f : α → Except ε γ} {g : α → Except ε δ} (herror : ∀ e, x = .error e → P e)
    (hrest : ∀ a, x = .ok a → Agree P T (f a) (g a)) : Agree P T (x >>= f) (x >>= g) := by
  cases x with
  | error e => exact .error (herror e rfl)
  | ok a => exact hrest a rfl

lemma mapError {R : φ → Prop} {f : ε → φ} (h : Agree P S x y) (hf : ∀ e, P e → R (f e)) :
    Agree R S (x.mapError f) (y.mapError f) := by
  cases h with
  | ok h => exact .ok h
  | error h => exact .error (hf _ h)

lemma mapM {U : ι → κ → Prop} {f : ι → Except ε α} {g : κ → Except ε β} {is : List ι}
    {ks : List κ} (h : List.Forall₂ U is ks) (hfg : ∀ i k, U i k → Agree P S (f i) (g k)) :
    Agree P (List.Forall₂ S) (is.mapM f) (ks.mapM g) := by
  induction h with
  | nil => exact .ok .nil
  | cons hik _ ih =>
    rw [List.mapM_cons, List.mapM_cons]
    apply (hfg _ _ hik).bind
    intro a b hab
    apply ih.bind
    intro as bs habs
    exact .ok (.cons hab habs)

lemma foldlM {f : α → ι → Except ε α} {g : β → ι → Except ε β} {items : List ι} {a : α} {b : β}
    (hfg : ∀ i ∈ items, ∀ a b, S a b → Agree P S (f a i) (g b i)) (hab : S a b) :
    Agree P S (items.foldlM f a) (items.foldlM g b) := by
  induction items generalizing a b with
  | nil => exact .ok hab
  | cons i rest ih =>
    rw [List.foldlM_cons, List.foldlM_cons]
    apply (hfg i List.mem_cons_self a b hab).bind
    intro a' b' hab'
    apply ih _ hab'
    intro j hj
    exact hfg j (List.mem_cons_of_mem i hj)

end Agree

end Query

end TableGateway
