import EnvironmentOperator.Proofs.Cluster.Scene
import EnvironmentOperator.Proofs.Reconcile.Beside
import EnvironmentOperator.Proofs.Reconcile.Pass

namespace EnvironmentOperator

open Cluster

namespace Exchange

def Plain (x : Exchange) : Prop := ∃ (c : Cluster) (now : Instant), c.faults = [] ∧ x.answer = (c.answer now x.call).1

section Plain

variable {a : Address} {resource : Resource} {o : Object} {r : Except StoreError Object}

theorem Plain.get (h : Plain ⟨.get a, r⟩) : (∃ live, r = .ok live) ∨ r = .error (.notFound a.resource.kind a.name) := by
  obtain ⟨c, now, hfaults, h⟩ := h
  have h : r = c.get a := h.trans (congrArg Prod.fst (answer_of_faults now hfaults (.get a)))
  cases hfind : c.find? a.key with
  | none => exact .inr (h.trans (get_of_missing hfind))
  | some live => exact .inl ⟨live, h.trans (get_of_find? hfind)⟩

theorem Plain.create (h : Plain ⟨.create resource o, r⟩) :
    (∃ made, r = .ok made) ∨ r = .error (.alreadyExists resource.kind o.metadata.nameText) := by
  obtain ⟨c, now, hfaults, h⟩ := h
  have h : r = (c.create resource o).1 :=
    h.trans (congrArg Prod.fst (answer_of_faults now hfaults (.create resource o)))
  unfold Cluster.create at h
  dsimp only at h
  split at h
  · exact .inr h
  · exact .inl ⟨_, h⟩

theorem Plain.replace (h : Plain ⟨.replace resource o, r⟩) :
    (∃ written, r = .ok written) ∨ r = .error (.notFound resource.kind o.metadata.nameText) ∨
      ∃ message, r = .error (.conflict resource.kind o.metadata.nameText message) := by
  obtain ⟨c, now, hfaults, h⟩ := h
  have h : r = (c.replace resource o).1 :=
    h.trans (congrArg Prod.fst (answer_of_faults now hfaults (.replace resource o)))
  cases hfind : c.find? (Call.addressOf resource o).key with
  | none => exact .inr (.inl (h.trans (congrArg Prod.fst (replace_of_missing hfind))))
  | some current =>
      by_cases hstale : isStale current o = true
      · exact .inr (.inr ⟨_, h.trans (congrArg Prod.fst (replace_of_stale hfind hstale))⟩)
      · have hfresh : isStale current o = false := by simpa using hstale
        by_cases hsame : SameContent (carried current o) current
        · exact .inl ⟨_, h.trans (congrArg Prod.fst (replace_of_same hfind hfresh hsame))⟩
        · exact .inl ⟨_, h.trans (congrArg Prod.fst (replace_of_find? hfind hfresh hsame))⟩

end Plain

end Exchange

namespace Scene

def Peaceful (s s' : Scene) : Prop := Disturbed s s' ∧ (s.cluster.faults = [] → s'.cluster.faults = [])

theorem rely_peaceful : Rely Peaceful where
  refl s := ⟨rely_disturbed.refl s, id⟩
  trans h h' := ⟨rely_disturbed.trans h.1 h'.1, fun hs => h'.2 (h.2 hs)⟩

theorem amid_peaceful {ε α : Type} {p : Program ε α} {s : Scene} (hs : s.cluster.faults = []) :
    p.Amid answerer Peaceful (fun _ _ => True)
      (fun r s' => ∃ course, s'.history = s.history ++ course ∧ p.Ends course r ∧ ∀ x ∈ course, x.Plain) s := by
  induction p generalizing s with
  | done a => exact fun s' hs' => ⟨[], by rw [hs'.1.2, List.append_nil], ⟨rfl, rfl⟩, by simp⟩
  | fail e => exact fun s' hs' => ⟨[], by rw [hs'.1.2, List.append_nil], ⟨rfl, rfl⟩, by simp⟩
  | measure m rest ih =>
      intro s' hs'
      have hrest := ih (s := s') (hs'.2 hs)
      rw [hs'.1.2] at hrest
      exact hrest
  | call c next ih =>
      intro s' hs'
      have hfaults := hs'.2 hs
      refine ⟨trivial, (ih _ (faults_answer s'.now hfaults c)).mono (fun _ _ h => h) ?_⟩
      rintro r s'' ⟨course, hcourse, hends, hplain⟩
      refine ⟨⟨c, (answerer.answer c s').1⟩ :: course, ?_, ⟨_, course, rfl, hends⟩, ?_⟩
      · rw [hcourse, ← hs'.1.2]
        exact List.append_assoc ..
      · exact List.forall_mem_cons.2 ⟨⟨s'.cluster, s'.now, hfaults, rfl⟩, hplain⟩

end Scene

namespace Declaration

inductive Formed : Declaration → Prop where
  | createOnly {α : Type} [Manifest α] (x : α) : Formed (createOnly x)
  | overwrite {α : Type} [Manifest α] (lay : α → α → α) (x : α) : Formed (overwrite lay x)

def absent (d : Declaration) : StoreError := .notFound d.address.resource.kind d.address.name

def taken (d : Declaration) : StoreError := .alreadyExists d.kind.resource.kind d.desired.metadata.nameText

inductive Revision (d : Declaration) (live : Object) : List Exchange → Except StoreError EnsureOutcome → Prop where
  | unreadable {e : StoreError} : d.revision live = .error e → Revision d live [] (.error e)
  | idle : d.revision live = .ok none → Revision d live [] (.ok .unchanged)
  | written {next o : Object} : d.revision live = .ok (some next) →
      Revision d live [⟨.replace d.kind.resource next, .ok o⟩] (.ok .updated)
  | missing {next : Object} : d.revision live = .ok (some next) →
      Revision d live [⟨.replace d.kind.resource next, .error (.notFound d.kind.resource.kind next.metadata.nameText)⟩]
        (.error (.notFound d.kind.resource.kind next.metadata.nameText))
  | stale {next : Object} {message : String} : d.revision live = .ok (some next) →
      Revision d live
        [⟨.replace d.kind.resource next, .error (.conflict d.kind.resource.kind next.metadata.nameText message)⟩]
        (.error (.conflict d.kind.resource.kind next.metadata.nameText message))

/-- The calls of an ensuring that has been overtaken twice. -/
def vanishing (d : Declaration) : List Exchange :=
  [⟨.get d.address, .error d.absent⟩, ⟨.create d.kind.resource d.desired, .error d.taken⟩,
    ⟨.get d.address, .error d.absent⟩]

/-- The courses that an ensuring can take where no fault strikes, each with its end. -/
inductive Course (d : Declaration) : List Exchange → Except StoreError EnsureOutcome → Prop where
  | found {live : Object} {rest : List Exchange} {r : Except StoreError EnsureOutcome} : d.Revision live rest r →
      Course d (⟨.get d.address, .ok live⟩ :: rest) r
  | created {o : Object} :
      Course d [⟨.get d.address, .error d.absent⟩, ⟨.create d.kind.resource d.desired, .ok o⟩] (.ok .created)
  | appeared {live : Object} {rest : List Exchange} {r : Except StoreError EnsureOutcome} : d.Revision live rest r →
      Course d (⟨.get d.address, .error d.absent⟩ :: ⟨.create d.kind.resource d.desired, .error d.taken⟩ ::
        ⟨.get d.address, .ok live⟩ :: rest) r
  | vanished : Course d d.vanishing (.error d.absent)

variable {d : Declaration} {live : Object} {course : List Exchange} {r : Except StoreError EnsureOutcome}
  {e : StoreError}

theorem Formed.unreadable (hd : d.Formed) (h : d.revision live = .error e) :
    ∃ kind cause, e = .unreadable kind cause := by
  cases hd with
  | createOnly x => cases h
  | @overwrite α _ lay x =>
      simp only [Declaration.overwrite, Object.typed] at h
      cases hlive : (Manifest.ofObject live : Except DecodeError α) with
      | error cause =>
          rw [hlive] at h
          cases h
          exact ⟨_, _, rfl⟩
      | ok current =>
          rw [hlive] at h
          cases h

section Ends

theorem revision_of_ends (h : (Program.bind (d.revise live) fun outcome =>
    .measure (.applied d.kind.name outcome) (.done outcome)).Ends course r) (hplain : ∀ x ∈ course, x.Plain) :
    d.Revision live course r := by
  unfold revise at h
  cases hrevision : d.revision live with
  | error e =>
      rw [hrevision] at h
      obtain ⟨rfl, rfl⟩ := h
      exact .unreadable hrevision
  | ok revision =>
      cases revision with
      | none =>
          rw [hrevision] at h
          obtain ⟨rfl, rfl⟩ := h
          exact .idle hrevision
      | some next =>
          rw [hrevision] at h
          obtain ⟨answer, rest, rfl, h⟩ := h
          rcases (hplain _ (List.mem_cons_self ..)).replace with ⟨o, rfl⟩ | rfl | ⟨message, rfl⟩
          · obtain ⟨rfl, rfl⟩ := h
            exact .written hrevision
          · obtain ⟨rfl, rfl⟩ := h
            exact .missing hrevision
          · obtain ⟨rfl, rfl⟩ := h
            exact .stale hrevision

theorem course_of_ends (h : d.ensure.Ends course r) (hplain : ∀ x ∈ course, x.Plain) : d.Course course r := by
  obtain ⟨found, rest, rfl, h⟩ := h
  obtain ⟨hfound, hplain₁⟩ := List.forall_mem_cons.1 hplain
  rcases hfound.get with ⟨live, rfl⟩ | rfl
  · exact .found (revision_of_ends h hplain₁)
  · obtain ⟨created, rest, rfl, h⟩ := h
    obtain ⟨hcreated, hplain₂⟩ := List.forall_mem_cons.1 hplain₁
    rcases hcreated.create with ⟨o, rfl⟩ | rfl
    · obtain ⟨rfl, rfl⟩ := h
      exact .created
    · obtain ⟨again, rest, rfl, h⟩ := h
      obtain ⟨hagain, hplain₃⟩ := List.forall_mem_cons.1 hplain₂
      rcases hagain.get with ⟨live, rfl⟩ | rfl
      · exact .appeared (revision_of_ends h hplain₃)
      · obtain ⟨rfl, rfl⟩ := h
        exact .vanished

end Ends

section Surfaces

def SurfacesLook (course : List Exchange) (r : Except StoreError EnsureOutcome) : Prop :=
  ∃ a e, course.getLast? = some ⟨.get a, .error e⟩ ∧ r = .error e

theorem Revision.not_alreadyExists (hd : d.Formed) (h : d.Revision live course r) (hr : r = .error e) :
    e.isAlreadyExists = false := by
  subst hr
  cases h with
  | unreadable he =>
      obtain ⟨kind, cause, rfl⟩ := hd.unreadable he
      rfl
  | missing => rfl
  | stale => rfl

theorem Course.not_alreadyExists (hd : d.Formed) (h : d.Course course r) (hr : r = .error e) :
    e.isAlreadyExists = false := by
  subst hr
  cases h with
  | found h => exact h.not_alreadyExists hd rfl
  | appeared h => exact h.not_alreadyExists hd rfl
  | vanished => rfl

theorem Revision.not_surfacesLook {a : Address} (h : d.Revision live course r) (before : List Exchange) :
    ¬SurfacesLook (before ++ ⟨.get a, .ok live⟩ :: course) r := by
  rintro ⟨a', e, hlast, rfl⟩
  cases h with
  | unreadable =>
      simp only [List.getLast?_concat, Option.some.injEq, Exchange.mk.injEq] at hlast
      cases hlast.1
      cases hlast.2
  | missing => simp at hlast
  | stale => simp at hlast

theorem Course.surfacesLook (h : d.Course course r) : SurfacesLook course r ↔ course = d.vanishing := by
  cases h with
  | found hrevision =>
      constructor
      · exact fun hlook => absurd hlook (hrevision.not_surfacesLook [])
      · intro hcourse
        cases hcourse
  | created =>
      constructor
      · rintro ⟨a, e, -, hr⟩
        cases hr
      · intro hcourse
        cases hcourse
  | appeared hrevision =>
      constructor
      · exact fun hlook => absurd hlook (hrevision.not_surfacesLook
          [⟨.get d.address, .error d.absent⟩, ⟨.create d.kind.resource d.desired, .error d.taken⟩])
      · intro hcourse
        cases hcourse
  | vanished => exact ⟨fun _ => rfl, fun _ => ⟨d.address, d.absent, rfl, rfl⟩⟩

/-- Whatever others do between the calls of an ensuring, as long as no fault is planted, it takes one of these courses.
It never fails because the object exists already, and it fails with the answer to a look only when the object was
missing at first, was there when it was to be created, and was missing again. -/
theorem ensure_surfaces (hd : d.Formed) {s : Scene} (hs : s.cluster.faults = []) {act : Call → Scene → Scene}
    (hact : ∀ call s, Scene.Peaceful s (act call s)) :
    ∃ course r s', d.ensure.run (Scene.answerer.disturbed act) s = (r, s') ∧ s'.history = s.history ++ course ∧
      d.Course course r ∧ (∀ e, r = .error e → e.isAlreadyExists = false) ∧
      (SurfacesLook course r ↔ course = d.vanishing) := by
  obtain ⟨course, hhistory, hends, hplain⟩ :=
    ((Scene.amid_peaceful (p := d.ensure) hs).along Scene.rely_peaceful act hact).run
  have hcourse := course_of_ends hends hplain
  exact ⟨course, _, _, rfl, hhistory, hcourse, fun _ => hcourse.not_alreadyExists hd, hcourse.surfacesLook⟩

end Surfaces

section Dispute

open Pass

def Handled (d : Declaration) : Scene → Scene → Prop :=
  Relation.ReflTransGen fun s s' => ∃ now call, call.address.key = d.address.key ∧
    call.verb ∈ [Verb.create, .replace, .delete] ∧ s' = { s with cluster := (s.cluster.answer now call).2 }

theorem Handled.peaceful {s s' : Scene} (h : d.Handled s s') : Scene.Peaceful s s' := by
  induction h with
  | refl => exact Scene.rely_peaceful.refl s
  | tail _ hstep ih =>
      obtain ⟨now, call, -, -, rfl⟩ := hstep
      exact Scene.rely_peaceful.trans ih
        ⟨⟨.single (move_answer now _ call), rfl⟩, fun hfaults => faults_answer now hfaults call⟩

def disputed : Declaration :=
  .overwrite Overlay.secret (Desired.idePassword Pass.submittedScope { language := "go" })

def barePassword : Object := Pass.bare { name := some "alice-vscode-password", «namespace» := some "team" }

def dispute (call : Call) (s : Scene) : Scene :=
  match call.verb, s.history.length with
  | .create, _ => { s with cluster := (s.cluster.answer midnight (.create Kind.secret.resource barePassword)).2 }
  | .get, 2 => { s with cluster := (s.cluster.answer midnight (.delete disputed.address)).2 }
  | _, _ => s

theorem handled_dispute (call : Call) (s : Scene) : disputed.Handled s (dispute call s) := by
  unfold dispute
  split
  · exact .single ⟨midnight, .create Kind.secret.resource barePassword, rfl, by decide, rfl⟩
  · exact .single ⟨midnight, .delete disputed.address, rfl, by decide, rfl⟩
  · exact .refl

theorem ensure_surfaces_dispute :
    ∃ course r s', disputed.ensure.run (Scene.answerer.disturbed dispute) ⟨{}, midnight, []⟩ = (r, s') ∧
      s'.history = [] ++ course ∧ disputed.Course course r ∧ (∀ e, r = .error e → e.isAlreadyExists = false) ∧
      (SurfacesLook course r ↔ course = disputed.vanishing) :=
  ensure_surfaces (.overwrite _ _) rfl fun call s => (handled_dispute call s).peaceful

theorem surfaces_second_look : ¬∀ (d : Declaration) (s : Scene) (act : Call → Scene → Scene), d.Formed →
    s.cluster.faults = [] → (∀ call s, d.Handled s (act call s)) →
    ∀ course r s', d.ensure.run (Scene.answerer.disturbed act) s = (r, s') → s'.history = s.history ++ course →
      ¬SurfacesLook course r ∧ ∀ e, r = .error e → e.isAlreadyExists = false := by
  intro h
  have hrun : disputed.ensure.run (Scene.answerer.disturbed dispute) ⟨{}, midnight, []⟩ =
      (.error disputed.absent, ⟨{ mutations := 2, lastVersion := 1 }, midnight, disputed.vanishing⟩) := by
    with_unfolding_all rfl
  exact (h disputed ⟨{}, midnight, []⟩ dispute (.overwrite _ _) rfl handled_dispute _ _ _ hrun rfl).1
    ⟨disputed.address, disputed.absent, rfl, rfl⟩

end Dispute

end Declaration

end EnvironmentOperator
