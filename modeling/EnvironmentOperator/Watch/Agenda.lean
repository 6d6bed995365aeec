import EnvironmentOperator.Cluster.Key
import EnvironmentOperator.Dict
/-!
When each environment is due to be looked at, as nanoseconds on a clock of the agenda's own. An environment has
one entry; of two times the earlier stands.
-/
namespace EnvironmentOperator

abbrev Agenda := Dict Key Nat

namespace Agenda

def schedule (a : Agenda) (k : Key) (time : Nat) : Agenda :=
  match Dict.at? a k with
  | some t => if t ≤ time then a else Dict.put a k time
  | none => Dict.put a k time

def earlier (e : Key × Nat) : Option (Key × Nat) → Key × Nat
  | some e' => if e'.2 < e.2 then e' else e
  | none => e

def earliest? : Agenda → Option (Key × Nat)
  | [] => none
  | e :: rest => some (earlier e (earliest? rest))

def due? (a : Agenda) (limit : Nat) : Option (Key × Nat) := a.earliest?.filter (fun e => decide (e.2 ≤ limit))

theorem at?_schedule (a : Agenda) (k k' : Key) (time : Nat) :
    Dict.at? (a.schedule k time) k' =
      if k' = k then some (((Dict.at? a k).map (min time)).getD time) else Dict.at? a k' := by
  unfold schedule
  cases h : Dict.at? a k with
  | none =>
      simp only [Dict.at?_put, Option.map_none, Option.getD_none]
  | some t =>
      by_cases ht : t ≤ time
      · by_cases hk : k' = k
        · subst hk; simp [h, ht]
        · simp [ht, hk]
      · have : min time t = time := Nat.min_eq_left (Nat.le_of_lt (Nat.lt_of_not_le ht))
        simp [ht, this, Dict.at?_put]

theorem le_of_due? {a : Agenda} {limit : Nat} {e : Key × Nat} (h : a.due? limit = some e) : e.2 ≤ limit := by
  simpa using (Option.filter_eq_some_iff.1 h).2

end Agenda

end EnvironmentOperator
