import EnvironmentOperator.Program
/-!
What holds along the run of a program: a condition on every call in the state in which it is made, and one on
the result and the state in the end. A run that is cut off stops at one of these states.
-/
namespace EnvironmentOperator.Program

variable {ε ε' α β σ : Type} {w : Answerer σ}

def Along (w : Answerer σ) (C : Call → σ → Prop) (Q : Except ε α → σ → Prop) : Program ε α → σ → Prop
  | .done a, s => Q (.ok a) s
  | .fail e, s => Q (.error e) s
  | .measure m rest, s => Along w C Q rest (w.note m s)
  | .call c next, s => C c s ∧ Along w C Q (next (w.answer c s).1) (w.answer c s).2

def calls (w : Answerer σ) : Program ε α → σ → List Call
  | .done _, _ => []
  | .fail _, _ => []
  | .measure m rest, s => calls w rest (w.note m s)
  | .call c next, s => c :: calls w (next (w.answer c s).1) (w.answer c s).2

/-- The state that is left when a run is cut off after so many calls. -/
def cut (w : Answerer σ) : Nat → Program ε α → σ → σ
  | _, .done _, s => s
  | _, .fail _, s => s
  | n, .measure m rest, s => cut w n rest (w.note m s)
  | 0, .call _ _, s => s
  | n + 1, .call c next, s => cut w n (next (w.answer c s).1) (w.answer c s).2

theorem cut_of_length_le {p : Program ε α} {s : σ} {n : Nat} (h : (calls w p s).length ≤ n) :
    cut w n p s = (run w p s).2 := by
  induction p generalizing s n with
  | done a => cases n <;> rfl
  | fail e => cases n <;> rfl
  | measure m rest ih =>
      have hc : cut w n rest (w.note m s) = (run w rest (w.note m s)).2 := ih h
      cases n <;> exact hc
  | call c next ih =>
      cases n with
      | zero => simp [calls] at h
      | succ n =>
          simp only [calls, List.length_cons, Nat.add_le_add_iff_right] at h
          exact ih _ h

namespace Along

variable {C C' : Call → σ → Prop}

theorem mono {Q Q' : Except ε α → σ → Prop} {p : Program ε α} {s : σ} (h : Along w C Q p s)
    (hC : ∀ c s, C c s → C' c s) (hQ : ∀ r s, Q r s → Q' r s) : Along w C' Q' p s := by
  induction p generalizing s with
  | done a => exact hQ _ _ h
  | fail e => exact hQ _ _ h
  | measure m rest ih => exact ih h
  | call c next ih => exact ⟨hC _ _ h.1, ih _ h.2⟩

theorem and {Q Q' : Except ε α → σ → Prop} {p : Program ε α} {s : σ} (h : Along w C Q p s)
    (h' : Along w C' Q' p s) : Along w (fun c s => C c s ∧ C' c s) (fun r s => Q r s ∧ Q' r s) p s := by
  induction p generalizing s with
  | done a => exact ⟨h, h'⟩
  | fail e => exact ⟨h, h'⟩
  | measure m rest ih => exact ih h h'
  | call c next ih => exact ⟨⟨h.1, h'.1⟩, ih _ h.2 h'.2⟩

theorem run {Q : Except ε α → σ → Prop} {p : Program ε α} {s : σ} (h : Along w C Q p s) :
    Q (Program.run w p s).1 (Program.run w p s).2 := by
  induction p generalizing s with
  | done a => exact h
  | fail e => exact h
  | measure m rest ih => exact ih h
  | call c next ih => exact ih _ h.2

theorem calls {R : Call → Prop} {Q : Except ε α → σ → Prop} {p : Program ε α} {s : σ}
    (h : Along w (fun c _ => R c) Q p s) : ∀ c ∈ Program.calls w p s, R c := by
  induction p generalizing s with
  | done a => intro c hc; simp [Program.calls] at hc
  | fail e => intro c hc; simp [Program.calls] at hc
  | measure m rest ih => exact ih h
  | call c next ih =>
      intro d hd
      rcases List.mem_cons.1 hd with rfl | hd
      · exact h.1
      · exact ih _ h.2 d hd

theorem cut {I : σ → Prop} {Q : Except ε α → σ → Prop} {p : Program ε α} {s : σ}
    (h : Along w (fun _ s => I s) Q p s) (hQ : ∀ r s, Q r s → I s) (n : Nat) : I (Program.cut w n p s) := by
  induction p generalizing s n with
  | done a => cases n <;> exact hQ _ _ h
  | fail e => cases n <;> exact hQ _ _ h
  | measure m rest ih => cases n <;> exact ih h _
  | call c next ih =>
      cases n with
      | zero => exact h.1
      | succ n => exact ih _ h.2 n

theorem of_kept {I : σ → Prop} (hanswer : ∀ c s, I s → I (w.answer c s).2) (hnote : ∀ m s, I s → I (w.note m s))
    (p : Program ε α) {s : σ} (hs : I s) : Along w (fun _ s => I s) (fun _ s => I s) p s := by
  induction p generalizing s with
  | done a => exact hs
  | fail e => exact hs
  | measure m rest ih => exact ih (hnote m s hs)
  | call c next ih => exact ⟨hs, ih _ (hanswer c s hs)⟩

theorem kept {I : σ → Prop} {Q : Except ε α → σ → Prop} {p : Program ε α} {s : σ} (h : Along w C Q p s)
    (hanswer : ∀ c s, I s → C c s → I (w.answer c s).2) (hnote : ∀ m s, I s → I (w.note m s)) (hs : I s) :
    Along w (fun _ s => I s) (fun r s => Q r s ∧ I s) p s := by
  induction p generalizing s with
  | done a => exact ⟨h, hs⟩
  | fail e => exact ⟨h, hs⟩
  | measure m rest ih => exact ih h (hnote m s hs)
  | call c next ih => exact ⟨hs, ih _ h.2 (hanswer c s hs h.1)⟩

end Along

section Rules

variable {C : Call → σ → Prop}

theorem along_bind {Q : Except ε β → σ → Prop} {p : Program ε α} {f : α → Program ε β} {s : σ} :
    Along w C Q (bind p f) s ↔
      Along w C (fun r s => match r with
        | .ok a => Along w C Q (f a) s
        | .error e => Q (.error e) s) p s := by
  induction p generalizing s with
  | done a => rfl
  | fail e => rfl
  | measure m rest ih => exact ih
  | call c next ih => exact and_congr_right fun _ => ih _

theorem along_mapError {Q : Except ε' α → σ → Prop} {g : ε → ε'} {p : Program ε α} {s : σ} :
    Along w C Q (mapError g p) s ↔ Along w C (fun r s => Q (r.mapError g) s) p s := by
  induction p generalizing s with
  | done a => rfl
  | fail e => rfl
  | measure m rest ih => exact ih
  | call c next ih => exact and_congr_right fun _ => ih _

theorem along_result {Q : Except ε' (Except ε α) → σ → Prop} {p : Program ε α} {s : σ} :
    Along w C Q (result p) s ↔ Along w C (fun r s => Q (.ok r) s) p s := by
  induction p generalizing s with
  | done a => rfl
  | fail e => rfl
  | measure m rest ih => exact ih
  | call c next ih => exact and_congr_right fun _ => ih _

@[simp] theorem along_ofExcept {Q : Except ε α → σ → Prop} {r : Except ε α} {s : σ} :
    Along w C Q (ofExcept r) s ↔ Q r s := by
  cases r <;> rfl

@[simp] theorem along_done {Q : Except ε α → σ → Prop} {a : α} {s : σ} :
    Along w C Q (.done a) s ↔ Q (.ok a) s := Iff.rfl

@[simp] theorem along_fail {Q : Except ε α → σ → Prop} {e : ε} {s : σ} :
    Along w C Q (.fail e) s ↔ Q (.error e) s := Iff.rfl

@[simp] theorem along_count {Q : Except ε Unit → σ → Prop} {m : Measurement} {s : σ} :
    Along w C Q (count m) s ↔ Q (.ok ()) (w.note m s) := Iff.rfl

theorem along_request {c : Call} {Q : Except StoreError c.Answer → σ → Prop} {s : σ} :
    Along w C Q (request c) s ↔ C c s ∧ Q (w.answer c s).1 (w.answer c s).2 :=
  and_congr_right fun _ => along_ofExcept

theorem along_request_bind {c : Call} {f : c.Answer → Program StoreError β} {Q : Except StoreError β → σ → Prop}
    {s : σ} :
    Along w C Q (bind (request c) f) s ↔ C c s ∧ match (w.answer c s).1 with
      | .ok a => Along w C Q (f a) (w.answer c s).2
      | .error e => Q (.error e) (w.answer c s).2 := by
  rw [along_bind, along_request]
  cases (w.answer c s).1 <;> exact Iff.rfl

theorem along_attempt_bind {c : Call} {f : Except StoreError c.Answer → Program ε β} {Q : Except ε β → σ → Prop}
    {s : σ} :
    Along w C Q (bind (attempt c) f) s ↔ C c s ∧ Along w C Q (f (w.answer c s).1) (w.answer c s).2 := Iff.rfl

end Rules

end EnvironmentOperator.Program
