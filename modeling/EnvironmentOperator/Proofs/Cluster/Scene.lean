import EnvironmentOperator.Proofs.Cluster.Moves
import EnvironmentOperator.Proofs.Program.Amid

namespace EnvironmentOperator

structure Exchange where
  call : Call
  answer : Except StoreError call.Answer

namespace Exchange

def found? : Exchange → Option Object
  | ⟨.get _, answer⟩ => answer.toOption
  | _ => none

def looks (history : List Exchange) : List Object := history.filterMap found?

end Exchange

variable {ε α β : Type}

/-- The program comes to this end when these are its calls and their answers. -/
def Program.Ends : Program ε α → List Exchange → Except ε α → Prop
  | .done a, history, r => history = [] ∧ r = .ok a
  | .fail e, history, r => history = [] ∧ r = .error e
  | .measure _ rest, history, r => Ends rest history r
  | .call c next, history, r => ∃ answer rest, history = ⟨c, answer⟩ :: rest ∧ Ends (next answer) rest r

namespace Program

variable {ε' : Type} {course : List Exchange}

theorem ends_ofExcept {x r : Except ε α} : (ofExcept x).Ends course r ↔ course = [] ∧ r = x := by
  cases x <;> exact Iff.rfl

theorem ends_result {p : Program ε α} {r : Except ε' (Except ε α)} :
    (result p).Ends course r ↔ ∃ r', p.Ends course r' ∧ r = .ok r' := by
  induction p generalizing course with
  | done a => simp [result, Ends, and_assoc]
  | fail e => simp [result, Ends, and_assoc]
  | measure m rest ih => exact ih
  | call c next ih =>
      constructor
      · rintro ⟨answer, rest, rfl, h⟩
        obtain ⟨r', hends, hr⟩ := (ih answer).1 h
        exact ⟨r', ⟨answer, rest, rfl, hends⟩, hr⟩
      · rintro ⟨r', ⟨answer, rest, rfl, h⟩, rfl⟩
        exact ⟨answer, rest, rfl, (ih answer).2 ⟨r', h, rfl⟩⟩

theorem ends_bind {p : Program ε α} {f : α → Program ε β} {r : Except ε β} (h : (bind p f).Ends course r) :
    (∃ e, p.Ends course (.error e) ∧ r = .error e) ∨
      ∃ a before after, course = before ++ after ∧ p.Ends before (.ok a) ∧ (f a).Ends after r := by
  induction p generalizing course with
  | done a => exact .inr ⟨a, [], course, rfl, ⟨rfl, rfl⟩, h⟩
  | fail e => exact .inl ⟨e, ⟨h.1, rfl⟩, h.2⟩
  | measure m rest ih => exact ih h
  | call c next ih =>
      obtain ⟨answer, rest, rfl, h⟩ := h
      rcases ih answer h with ⟨e, hends, rfl⟩ | ⟨a, before, after, rfl, hends, hafter⟩
      · exact .inl ⟨e, ⟨answer, rest, rfl, hends⟩, rfl⟩
      · exact .inr ⟨a, _ :: before, after, rfl, ⟨answer, before, rfl, hends⟩, hafter⟩

end Program

structure Scene where
  cluster : Cluster
  now : Instant
  history : List Exchange := []

namespace Scene

open Cluster Exchange

def answerer : Answerer Scene where
  answer call s :=
    let r := s.cluster.answer s.now call
    (r.1, { s with cluster := r.2, history := s.history ++ [⟨call, r.1⟩] })
  note _ s := s

structure Lapse (s s' : Scene) : Prop where
  kept : s.cluster.Kept → s'.cluster.Kept
  later : Later s.cluster s'.cluster
  history : s'.history = s.history

def Disturbed (s s' : Scene) : Prop := Moves s.cluster s'.cluster ∧ s'.history = s.history

theorem Disturbed.lapse {s s' : Scene} (h : Disturbed s s') : Lapse s s' := ⟨h.1.kept, h.1.later, h.2⟩

theorem rely_disturbed : Rely Disturbed where
  refl _ := ⟨.refl, rfl⟩
  trans h h' := ⟨h.1.trans h'.1, h'.2.trans h.2⟩

theorem amid_ends {R : Scene → Scene → Prop} {C : Call → Scene → Prop} {Q : Except ε α → Scene → Prop}
    {p : Program ε α} {s : Scene} (hR : ∀ {s s'}, R s s' → s'.history = s.history) (h : p.Amid answerer R C Q s) :
    p.Amid answerer R C
      (fun r s' => Q r s' ∧ ∃ course, s'.history = s.history ++ course ∧ p.Ends course r) s := by
  induction p generalizing s with
  | done a => exact fun s' hs' => ⟨h s' hs', [], by rw [hR hs', List.append_nil], rfl, rfl⟩
  | fail e => exact fun s' hs' => ⟨h s' hs', [], by rw [hR hs', List.append_nil], rfl, rfl⟩
  | measure m rest ih =>
      intro s' hs'
      have hrest := ih (h s' hs')
      rw [show (answerer.note m s').history = s.history from hR hs'] at hrest
      exact hrest
  | call c next ih =>
      intro s' hs'
      obtain ⟨hcall, hnext⟩ := h s' hs'
      refine ⟨hcall, (ih _ hnext).mono (fun _ _ h => h) ?_⟩
      rintro r s'' ⟨hQ, course, hcourse, hends⟩
      refine ⟨hQ, ⟨c, (answerer.answer c s').1⟩ :: course, ?_, _, course, rfl, hends⟩
      rw [hcourse, ← hR hs']
      exact List.append_assoc ..

end Scene

end EnvironmentOperator
