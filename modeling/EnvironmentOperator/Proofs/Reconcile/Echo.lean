import EnvironmentOperator.Proofs.Reconcile.Retry
import EnvironmentOperator.Proofs.Reconcile.Vouched

namespace EnvironmentOperator

open Cluster Environment

namespace Pass

structure Flight where
  settings : Settings
  history : List Exchange := []
  rest : Program PassError PassOutcome

def Flight.advance (f : Flight) (t : Instant) (c : Cluster) : Flight × Cluster :=
  let (rest, s) := f.rest.advance Scene.answerer ⟨c, t, f.history⟩
  ({ f with history := s.history, rest }, s.cluster)

structure World where
  cluster : Cluster := {}
  readings : List Object := []
  current : Option Flight := none
  ended : List Flight := []

namespace World

def flights (w : World) : List Flight := w.current.toList ++ w.ended

def provided (ns name : String) (w : World) (spec : EnvironmentSpec) : Prop :=
  ∃ f ∈ w.flights, Provides f.settings ns name spec f.history

/-- Others do what they may; a pass begins when there is none, makes its next call, or ends wherever it has come to. -/
inductive Step (ns name : String) : World → World → Prop where
  | outside {w : World} (t : Instant) {call : Call} : Outside (Environment.address (some ns) name).key w.readings call →
      Step ns name w { w with cluster := (w.cluster.answer t call).2 }
  | read {w : World} (t : Instant) {o : Object} :
      (w.cluster.answer t (.get (Environment.address (some ns) name))).1 = .ok o →
      Step ns name w { w with
        cluster := (w.cluster.answer t (.get (Environment.address (some ns) name))).2
        readings := o :: w.readings }
  | faults {w : World} (faults : List Fault) : Step ns name w { w with cluster := { w.cluster with faults } }
  | start {w : World} (settings : Settings) (t : Instant) : w.current = none →
      Step ns name w { w with current := some { settings, rest := run settings t ns name } }
  | call {w : World} {f : Flight} (t : Instant) : w.current = some f →
      Step ns name w { w with cluster := (f.advance t w.cluster).2, current := some (f.advance t w.cluster).1 }
  | finish {w : World} {f : Flight} : w.current = some f →
      Step ns name w { w with current := none, ended := f :: w.ended }

def Reached (ns name : String) : World → Prop := Relation.ReflTransGen (Step ns name) {}

end World

section Carries

variable {settings : Settings} {ns name : String}

structure Carries (settings : Settings) (ns name : String) (s s' : Scene) : Prop where
  kept : s.cluster.Kept → s'.cluster.Kept
  later : Later s.cluster s'.cluster
  history : s.history <+: s'.history
  honest : ∀ provided, s.cluster.Kept → (∀ spec, Provides settings ns name spec s'.history → provided spec) →
    Honest provided (Environment.address (some ns) name).key s.cluster →
    Honest provided (Environment.address (some ns) name).key s'.cluster

theorem rely_carries : Rely (Carries settings ns name) where
  refl s := ⟨id, .refl _, List.prefix_rfl, fun _ _ _ h => h⟩
  trans h h' := by
    refine ⟨h'.kept ∘ h.kept, h.later.trans h'.later, h.history.trans h'.history, ?_⟩
    intro provided hk hprovided hhonest
    have hbefore := h.honest provided hk (fun spec hspec => hprovided spec (hspec.later h'.history)) hhonest
    exact h'.honest provided (h.kept hk) hprovided hbefore

theorem allowed_carries :
    Program.Allowed Scene.answerer (fun call s => Sound settings ns name s call) (Carries settings ns name) where
  note _ s := rely_carries.refl s
  answer call s hsound := by
    have hhistory : s.history <+: (Scene.answerer.answer call s).2.history := List.prefix_append ..
    refine ⟨fun hk => hk.answer s.now call, (advanced_answer s.now s.cluster call).later, hhistory, ?_⟩
    intro provided hk hprovided hhonest
    exact hsound.honest hk (fun spec hspec => hprovided spec (hspec.later hhistory)) hhonest

end Carries

section Sane

variable {ns name : String} {w w' : World}

structure Sane (ns name : String) (w : World) : Prop where
  kept : w.cluster.Kept
  readings : ∀ o ∈ w.readings, Seen (Environment.address (some ns) name).key o w.cluster
  honest : Honest (w.provided ns name) (Environment.address (some ns) name).key w.cluster
  current : ∀ f, w.current = some f → ∀ t, f.rest.Amid Scene.answerer
    (Drifts (Environment.address (some ns) name).key) (fun call s => Sound f.settings ns name s call) (fun _ _ => True)
    ⟨w.cluster, t, f.history⟩

theorem Sane.drift (h : Sane ns name w) {c : Cluster}
    (hdrift : Drift (Environment.address (some ns) name).key w.cluster c) : Sane ns name { w with cluster := c } where
  kept := hdrift.kept h.kept
  readings o ho := (h.readings o ho).later hdrift.later
  honest := h.honest.shifts hdrift.shifts
  current f hf t := (h.current f hf t).rely (rely_drifts _) ⟨hdrift, rfl⟩

theorem Sane.step (h : Sane ns name w) (hstep : World.Step ns name w w') : Sane ns name w' := by
  cases hstep with
  | outside t hcall => exact h.drift (hcall.drift t h.kept h.readings)
  | faults faults => exact h.drift ⟨id, ⟨Nat.le_refl _, fun _ _ ho => .inl ho⟩, shifts_of_find? (Nat.le_refl _) rfl,
      endures_of_find? (Nat.le_refl _) rfl⟩
  | read t hread =>
      have hlook := find?_look t w.cluster (Environment.address (some ns) name) (Environment.address (some ns) name).key
      have hsame := h.drift (drift_of_find? t w.cluster hlook)
      refine ⟨hsame.kept, ?_, hsame.honest, hsame.current⟩
      intro o ho
      rcases List.mem_cons.1 ho with rfl | ho
      · have hseen : Seen (Environment.address (some ns) name).key o w.cluster :=
          ⟨w.cluster, h.kept, find?_of_look hread, .refl _⟩
        exact hseen.later (advanced_answer t w.cluster _).later
      · exact hsame.readings o ho
  | start settings t hnone =>
      refine ⟨h.kept, h.readings, h.honest.mono ?_, ?_⟩
      · rintro spec ⟨f, hf, hprovides⟩
        rw [World.flights, hnone] at hf
        exact ⟨f, List.mem_cons_of_mem _ hf, hprovides⟩
      · rintro f hf t'
        cases hf
        exact run_amid settings t ns name h.kept rfl
  | @call f t hcurrent =>
      obtain ⟨hrest, hcarries⟩ := (h.current f hcurrent t).advance (rely_drifts _) rely_carries allowed_carries
      refine ⟨hcarries.kept h.kept, fun o ho => (h.readings o ho).later hcarries.later, ?_, ?_⟩
      · refine hcarries.honest _ h.kept (fun spec hspec => ⟨_, List.mem_cons_self .., hspec⟩) (h.honest.mono ?_)
        rintro spec ⟨f', hf', hprovides⟩
        rw [World.flights, hcurrent] at hf'
        rcases List.mem_cons.1 hf' with rfl | hended
        · exact ⟨_, List.mem_cons_self .., hprovides.later hcarries.history⟩
        · exact ⟨f', List.mem_cons_of_mem _ hended, hprovides⟩
      · rintro f' hf' t'
        cases hf'
        exact hrest.rely (rely_drifts _) ⟨.refl _ _, rfl⟩
  | @finish f hcurrent =>
      refine ⟨h.kept, h.readings, h.honest.mono ?_, fun f' hf' => by cases hf'⟩
      rintro spec ⟨f', hf', hprovides⟩
      rw [World.flights, hcurrent] at hf'
      exact ⟨f', hf', hprovides⟩

theorem sane_of_reached (h : World.Reached ns name w) : Sane ns name w := by
  induction h with
  | refl =>
      refine ⟨Reachable.empty.kept, ?_, ?_, ?_⟩
      · simp
      · intro o status g ho
        cases ho
      · intro f hf
        cases hf
  | tail _ hstep ih => exact ih.step hstep

/-- Where an event is taken for an echo, some pass has ensured every stage for the spec that the environment has. The
versions of a store are counted in 64 bits. -/
theorem echo_provided (h : World.Reached ns name w) (hversions : w.cluster.lastVersion < 2 ^ 64) {o : Object}
    {env : Environment} (hstored : Stored w.cluster (Environment.address (some ns) name).key o env) {interval : Span}
    {now : Instant} (hecho : (env.statusEchoDelay interval now).isSome = true) :
    ∃ f ∈ w.flights, Provides f.settings ns name env.spec f.history := by
  obtain ⟨-, -, status, updated, hstatus, hcurrent, -⟩ := statusEchoDelay_isSome.1 hecho
  simp only [statusIsCurrent, Bool.and_eq_true, decide_eq_true_eq] at hcurrent
  obtain ⟨hobserved, hgeneration⟩ := hcurrent
  obtain ⟨g, hg⟩ := Option.isSome_iff_exists.1 hobserved
  obtain ⟨-, -, hread⟩ := ofObject_eq_ok.1 hstored.2
  rw [hstatus] at hread
  obtain ⟨c₁, o₁, env₁, henv₁, ⟨f, hf, hprovides⟩, hg₁, hdescends⟩ :=
    (sane_of_reached h).honest o status g hstored.1 hread hg
  have hgeneration : o.metadata.generation = some g := by
    rw [hg, hstored.metadata] at hgeneration
    exact hgeneration.symm
  have hspec := (hdescends.sameSpec hversions hg₁ hgeneration).read henv₁ hstored.2
  rw [hspec]
  exact ⟨f, hf, hprovides⟩

end Sane

section Submitted

def World.calls (t : Instant) : Nat → World → World
  | 0, w => w
  | n + 1, w =>
      match w.current with
      | none => w
      | some f => calls t n { w with cluster := (f.advance t w.cluster).2, current := some (f.advance t w.cluster).1 }

theorem World.Reached.calls {ns name : String} (t : Instant) (n : Nat) {w : World} (h : World.Reached ns name w) :
    World.Reached ns name (w.calls t n) := by
  induction n generalizing w with
  | zero => exact h
  | succ n ih =>
      unfold World.calls
      cases hcurrent : w.current with
      | none => exact h
      | some f => exact ih (h.tail (.call t hcurrent))

def underWay (n : Nat) : World :=
  World.calls midnight n {
    cluster := submitted (some "alice") []
    current := some { settings := {}, rest := run {} midnight "team" "alice" } }

theorem reached_underWay (n : Nat) : World.Reached "team" "alice" (underWay n) := by
  have hcreated : World.Reached "team" "alice" { cluster := submitted (some "alice") [] } :=
    .single (.outside midnight (.create Kind.environment.resource rfl))
  exact World.Reached.calls midnight n (hcreated.tail (.start {} midnight rfl))

theorem echo_provided_alice : ∃ f ∈ (underWay 40).flights,
    Provides f.settings "team" "alice" { language := "go" } f.history := by
  obtain ⟨o, hstored⟩ := Reconcile.stored_alice (c := (underWay 40).cluster) (by decide +kernel)
  have hspec : (Reconcile.aliceIn (underWay 40).cluster).spec = { language := "go" } := by
    decide +kernel
  have hecho : ((Reconcile.aliceIn (underWay 40).cluster).statusEchoDelay ⟨600, 0⟩ midnight).isSome = true := by
    decide +kernel
  exact hspec ▸ echo_provided (reached_underWay 40) (by decide +kernel) hstored hecho

end Submitted

end Pass

end EnvironmentOperator
