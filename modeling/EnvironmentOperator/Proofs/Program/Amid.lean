import EnvironmentOperator.Proofs.Program.Along
/-!
What holds of a program amid others: before each of its calls, and after the last, the state may be changed in any way
that a given relation allows. Two programs whose calls allow for each other may take turns in any order.
-/
namespace EnvironmentOperator

/-- What others may do between two calls: nothing, or one thing after the other. -/
structure Rely {σ : Type} (R : σ → σ → Prop) : Prop where
  refl : ∀ s, R s s
  trans : ∀ {s s' s''}, R s s' → R s' s'' → R s s''

def Answerer.disturbed {σ : Type} (w : Answerer σ) (act : Call → σ → σ) : Answerer σ where
  answer c s := w.answer c (act c s)
  note := w.note

namespace Program

variable {ε ε' α β σ τ : Type} {w : Answerer σ} {R : σ → σ → Prop} {C C' : Call → σ → Prop}

def Amid (w : Answerer σ) (R : σ → σ → Prop) (C : Call → σ → Prop) (Q : Except ε α → σ → Prop) :
    Program ε α → σ → Prop
  | .done a, s => ∀ s', R s s' → Q (.ok a) s'
  | .fail e, s => ∀ s', R s s' → Q (.error e) s'
  | .measure m rest, s => ∀ s', R s s' → Amid w R C Q rest (w.note m s')
  | .call c next, s => ∀ s', R s s' → C c s' ∧ Amid w R C Q (next (w.answer c s').1) (w.answer c s').2

namespace Amid

variable {Q Q' : Except ε α → σ → Prop} {p : Program ε α} {s : σ}

theorem mono (h : Amid w R C Q p s) (hC : ∀ c s, C c s → C' c s) (hQ : ∀ r s, Q r s → Q' r s) :
    Amid w R C' Q' p s := by
  induction p generalizing s with
  | done a => exact fun s' hs' => hQ _ _ (h s' hs')
  | fail e => exact fun s' hs' => hQ _ _ (h s' hs')
  | measure m rest ih => exact fun s' hs' => ih (h s' hs')
  | call c next ih => exact fun s' hs' => ⟨hC _ _ (h s' hs').1, ih _ (h s' hs').2⟩

theorem rely (h : Amid w R C Q p s) (hR : Rely R) {s' : σ} (hs' : R s s') : Amid w R C Q p s' := by
  cases p with
  | done a => exact fun s'' hs'' => h s'' (hR.trans hs' hs'')
  | fail e => exact fun s'' hs'' => h s'' (hR.trans hs' hs'')
  | measure m rest => exact fun s'' hs'' => h s'' (hR.trans hs' hs'')
  | call c next => exact fun s'' hs'' => h s'' (hR.trans hs' hs'')

theorem kept {I : σ → Prop} (h : Amid w R C Q p s) (hrely : ∀ s s', R s s' → I s → I s')
    (hanswer : ∀ c s, I s → C c s → I (w.answer c s).2) (hnote : ∀ m s, I s → I (w.note m s)) (hs : I s) :
    Amid w R (fun c s => C c s ∧ I s) (fun r s => Q r s ∧ I s) p s := by
  induction p generalizing s with
  | done a => exact fun s' hs' => ⟨h s' hs', hrely _ _ hs' hs⟩
  | fail e => exact fun s' hs' => ⟨h s' hs', hrely _ _ hs' hs⟩
  | measure m rest ih => exact fun s' hs' => ih (h s' hs') (hnote m _ (hrely _ _ hs' hs))
  | call c next ih =>
      intro s' hs'
      have hkept := hrely _ _ hs' hs
      exact ⟨⟨(h s' hs').1, hkept⟩, ih _ (h s' hs').2 (hanswer c s' hkept (h s' hs').1)⟩

theorem along (h : Amid w R C Q p s) (hR : Rely R) (act : Call → σ → σ) (hact : ∀ c s, R s (act c s)) :
    Along (w.disturbed act) (fun c s => C c (act c s)) Q p s := by
  induction p generalizing s with
  | done a => exact h s (hR.refl s)
  | fail e => exact h s (hR.refl s)
  | measure m rest ih => exact ih (h s (hR.refl s))
  | call c next ih => exact ⟨(h _ (hact c s)).1, ih _ (h _ (hact c s)).2⟩

end Amid

section Rules

variable {Q : Except ε α → σ → Prop} {p : Program ε α} {s : σ}

theorem amid_bind {Q : Except ε β → σ → Prop} (hR : Rely R) {f : α → Program ε β}
    (h : Amid w R C (fun r s => match r with
      | .ok a => Amid w R C Q (f a) s
      | .error e => Q (.error e) s) p s) : Amid w R C Q (bind p f) s := by
  induction p generalizing s with
  | done a => exact h s (hR.refl s)
  | fail e => exact h
  | measure m rest ih => exact fun s' hs' => ih (h s' hs')
  | call c next ih => exact fun s' hs' => ⟨(h s' hs').1, ih _ (h s' hs').2⟩

theorem amid_mapError {Q : Except ε' α → σ → Prop} {g : ε → ε'} :
    Amid w R C Q (mapError g p) s ↔ Amid w R C (fun r s => Q (r.mapError g) s) p s := by
  induction p generalizing s with
  | done a => rfl
  | fail e => rfl
  | measure m rest ih => exact forall₂_congr fun _ _ => ih
  | call c next ih => exact forall₂_congr fun _ _ => and_congr_right fun _ => ih _

theorem amid_result {Q : Except ε' (Except ε α) → σ → Prop} :
    Amid w R C Q (result p) s ↔ Amid w R C (fun r s => Q (.ok r) s) p s := by
  induction p generalizing s with
  | done a => rfl
  | fail e => rfl
  | measure m rest ih => exact forall₂_congr fun _ _ => ih
  | call c next ih => exact forall₂_congr fun _ _ => and_congr_right fun _ => ih _

@[simp] theorem amid_ofExcept {r : Except ε α} : Amid w R C Q (ofExcept r) s ↔ ∀ s', R s s' → Q r s' := by
  cases r <;> rfl

theorem amid_attempt_bind {Q : Except ε β → σ → Prop} {c : Call} {f : Except StoreError c.Answer → Program ε β} :
    Amid w R C Q (bind (attempt c) f) s ↔
      ∀ s', R s s' → C c s' ∧ Amid w R C Q (f (w.answer c s').1) (w.answer c s').2 := Iff.rfl

theorem amid_request {c : Call} {Q : Except StoreError c.Answer → σ → Prop} :
    Amid w R C Q (request c) s ↔
      ∀ s', R s s' → C c s' ∧ ∀ s'', R (w.answer c s').2 s'' → Q (w.answer c s').1 s'' :=
  forall₂_congr fun _ _ => and_congr_right fun _ => amid_ofExcept

theorem amid_request_bind {c : Call} {f : c.Answer → Program StoreError β} {Q : Except StoreError β → σ → Prop} :
    Amid w R C Q (bind (request c) f) s ↔ ∀ s', R s s' → C c s' ∧ match (w.answer c s').1 with
      | .ok a => Amid w R C Q (f a) (w.answer c s').2
      | .error e => ∀ s'', R (w.answer c s').2 s'' → Q (.error e) s'' := by
  refine forall₂_congr fun s' _ => and_congr_right fun _ => ?_
  cases (w.answer c s').1 <;> exact Iff.rfl

end Rules

section Only

variable {P : Call → Prop}

def Only (P : Call → Prop) : Program ε α → Prop
  | .done _ => True
  | .fail _ => True
  | .measure _ rest => Only P rest
  | .call c next => P c ∧ ∀ r, Only P (next r)

theorem only_bind {p : Program ε α} {f : α → Program ε β} (h : Only P p) (hf : ∀ a, Only P (f a)) :
    Only P (bind p f) := by
  induction p with
  | done a => exact hf a
  | fail e => trivial
  | measure m rest ih => exact ih h
  | call c next ih => exact ⟨h.1, fun r => ih r (h.2 r)⟩

theorem only_mapError {p : Program ε α} (h : Only P p) (g : ε → ε') : Only P (mapError g p) := by
  induction p with
  | done a => trivial
  | fail e => trivial
  | measure m rest ih => exact ih h
  | call c next ih => exact ⟨h.1, fun r => ih r (h.2 r)⟩

theorem only_request {c : Call} (h : P c) : Only P (request c) := by
  refine ⟨h, fun r => ?_⟩
  cases r <;> trivial

theorem Only.along {p : Program ε α} (h : Only P p) (s : σ) : Along w (fun c _ => P c) (fun _ _ => True) p s := by
  induction p generalizing s with
  | done a => trivial
  | fail e => trivial
  | measure m rest ih => exact ih h _
  | call c next ih => exact ⟨h.1, ih _ (h.2 _) _⟩

theorem Only.amid {p : Program ε α} (h : Only P p) (s : σ) : Amid w R (fun c _ => P c) (fun _ _ => True) p s := by
  induction p generalizing s with
  | done a => exact fun _ _ => trivial
  | fail e => exact fun _ _ => trivial
  | measure m rest ih => exact fun _ _ => ih h _
  | call c next ih => exact fun _ _ => ⟨h.1, ih _ (h.2 _) _⟩

end Only

section Race

inductive Turn where
  | left
  | right
deriving DecidableEq

def advance (w : Answerer σ) : Program ε α → σ → Program ε α × σ
  | .done a, s => (.done a, s)
  | .fail e, s => (.fail e, s)
  | .measure m rest, s => advance w rest (w.note m s)
  | .call c next, s => (next (w.answer c s).1, (w.answer c s).2)

/-- Two programs on one state. Each turn is the next call of one of them; when there are no more turns, the left one
runs to its end and then the right one. -/
def race (w : Answerer σ) :
    List Turn → Program ε α → Program ε' β → σ → (Except ε α × Except ε' β) × σ
  | [], p, q, s => (((run w p s).1, (run w q (run w p s).2).1), (run w q (run w p s).2).2)
  | .left :: turns, p, q, s => race w turns (advance w p s).1 q (advance w p s).2
  | .right :: turns, p, q, s => race w turns p (advance w q s).1 (advance w q s).2

variable {R' : σ → σ → Prop} {Q : Except ε α → σ → Prop} {Q' : Except ε' β → σ → Prop} {p : Program ε α}
  {q : Program ε' β} {s : σ}

structure Allowed (w : Answerer σ) (C : Call → σ → Prop) (R : σ → σ → Prop) : Prop where
  answer : ∀ c s, C c s → R s (w.answer c s).2
  note : ∀ m s, R s (w.note m s)

theorem Amid.run (h : Amid w R C Q p s) (hR : Rely R) (s' : σ) (hs' : R (Program.run w p s).2 s') :
    Q (Program.run w p s).1 s' := by
  induction p generalizing s with
  | done a => exact h s' hs'
  | fail e => exact h s' hs'
  | measure m rest ih => exact ih (h s (hR.refl s)) hs'
  | call c next ih => exact ih _ (h s (hR.refl s)).2 hs'

theorem Amid.run_allowed (h : Amid w R C Q p s) (hR : Rely R) (hR' : Rely R') (hallowed : Allowed w C R') :
    R' s (Program.run w p s).2 := by
  induction p generalizing s with
  | done a => exact hR'.refl s
  | fail e => exact hR'.refl s
  | measure m rest ih => exact hR'.trans (hallowed.note m s) (ih (h s (hR.refl s)))
  | call c next ih =>
      obtain ⟨hcall, hnext⟩ := h s (hR.refl s)
      exact hR'.trans (hallowed.answer c s hcall) (ih _ hnext)

theorem Amid.advance (h : Amid w R C Q p s) (hR : Rely R) (hR' : Rely R') (hallowed : Allowed w C R') :
    Amid w R C Q (Program.advance w p s).1 (Program.advance w p s).2 ∧ R' s (Program.advance w p s).2 := by
  induction p generalizing s with
  | done a => exact ⟨h, hR'.refl s⟩
  | fail e => exact ⟨h, hR'.refl s⟩
  | measure m rest ih =>
      obtain ⟨hrest, hs⟩ := ih (h s (hR.refl s))
      exact ⟨hrest, hR'.trans (hallowed.note m s) hs⟩
  | call c next ih =>
      obtain ⟨hcall, hnext⟩ := h s (hR.refl s)
      exact ⟨hnext, hallowed.answer c s hcall⟩

theorem Amid.race (hp : Amid w R C Q p s) (hq : Amid w R' C' Q' q s) (hR : Rely R) (hR' : Rely R')
    (hallowed : Allowed w C R') (hallowed' : Allowed w C' R) (turns : List Turn) :
    Q (Program.race w turns p q s).1.1 (Program.race w turns p q s).2 ∧
      Q' (Program.race w turns p q s).1.2 (Program.race w turns p q s).2 := by
  induction turns generalizing p q s with
  | nil =>
      have hq := hq.rely hR' (hp.run_allowed hR hR' hallowed)
      exact ⟨hp.run hR _ (hq.run_allowed hR' hR hallowed'), hq.run hR' _ (hR'.refl _)⟩
  | cons turn turns ih =>
      cases turn with
      | left =>
          obtain ⟨hp, hs⟩ := hp.advance hR hR' hallowed
          exact ih hp (hq.rely hR' hs)
      | right =>
          obtain ⟨hq, hs⟩ := hq.advance hR' hR hallowed'
          exact ih (hp.rely hR hs) hq

end Race

end Program

end EnvironmentOperator
